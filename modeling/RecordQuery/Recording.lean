import RecordQuery.Builder

/-! Recorded calls. A recorder is a builder that does nothing but keep the calls made on it; replaying the calls
does to another builder what was asked of the recorder. -/
namespace RecordQuery
set_option autoImplicit false

/-- A call on a builder. A union keeps all calls of the builder joined in. -/
inductive Call where
  | all
  | none
  | distinct
  | filter (conditions : List Condition)
  | exclude (conditions : List Condition)
  | orderBy (entries : List String)
  | union (other : List Call)
deriving Repr, Inhabited

/-- The calls made so far, oldest first. `refuse` says which calls fail. -/
structure Recorder {ε : Type} (refuse : Call → Option ε) where
  calls : List Call

namespace Recorder

variable {ε : Type} {refuse : Call → Option ε}

def record (call : Call) (r : Recorder refuse) : Except ε (Recorder refuse) :=
  match refuse call with
  | some e => .error e
  | none => .ok ⟨r.calls ++ [call]⟩

instance : QueryBuilder (Recorder refuse) ε where
  all := record .all
  none := record .none
  filter cs := record (.filter cs)
  exclude cs := record (.exclude cs)
  orderBy entries := record (.orderBy entries)
  distinct := record .distinct
  union r other := record (.union other.calls) r

end Recorder

/-! ## Replay -/

universe u v
variable {B : Type u} {ε : Type v} [QueryBuilder B ε]

mutual

/-- Makes a call on a builder. The other side of a union is what its calls make of `start`. -/
def Call.run (start : B) : Call → B → Except ε B
  | .all, b => QueryBuilder.all b
  | .none, b => QueryBuilder.none b
  | .distinct, b => QueryBuilder.distinct b
  | .filter cs, b => QueryBuilder.filter cs b
  | .exclude cs, b => QueryBuilder.exclude cs b
  | .orderBy entries, b => QueryBuilder.orderBy entries b
  | .union other, b => do
    let joined ← Call.runAll start other start
    QueryBuilder.union b joined

def Call.runAll (start : B) : List Call → B → Except ε B
  | [], b => .ok b
  | c :: cs, b => do
    let b ← Call.run start c b
    Call.runAll start cs b

end

/-- Makes the calls in order, from the builder given. -/
def replay (calls : List Call) (b : B) : Except ε B := Call.runAll b calls b

end RecordQuery
