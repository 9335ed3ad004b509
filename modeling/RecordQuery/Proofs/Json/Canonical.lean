import RecordQuery.Proofs.Number.Canonical

/-! JSON values with zeros of one sign. Two values are equal just where these are the same, so equality is an
equivalence, and what reads the same from a value and from its canonical form cannot tell equal values apart. -/
namespace RecordQuery
set_option autoImplicit false

/-! ## Numbers -/

def FiniteBinary64.canonical (x : FiniteBinary64) : FiniteBinary64 :=
  ⟨x.value.canonical, x.value.isFinite_canonical.trans x.finite⟩

theorem FiniteBinary64.canonical_inj (x y : FiniteBinary64) :
    x.canonical = y.canonical ↔ x.value.canonical = y.value.canonical := by
  rw [canonical, canonical, mk.injEq]

namespace JsonNumber

def canonical : JsonNumber → JsonNumber
  | int n => int n
  | double x => double x.canonical

theorem equal_iff (m n : JsonNumber) : m.equal n = true ↔ m.canonical = n.canonical := by
  cases m with
  | int m =>
    cases n with
    | int n => rw [equal, decide_eq_true_eq, canonical, canonical, int.injEq]
    | double y => exact iff_of_false nofun nofun
  | double x =>
    cases n with
    | int n => exact iff_of_false nofun nofun
    | double y =>
      rw [equal, Binary64.beq_iff_canonical _ _ x.finite y.finite, canonical, canonical, double.injEq,
        FiniteBinary64.canonical_inj]

end JsonNumber

/-! ## Values -/

namespace Json

mutual

/-- The same value, with a plus for the sign of every zero. -/
def canonical : Json → Json
  | null => null
  | bool b => bool b
  | number n => number n.canonical
  | string s => string s
  | array items => array (canonicalItems items)
  | object members => object (canonicalMembers members)

def canonicalItems : List Json → List Json
  | [] => []
  | j :: js => canonical j :: canonicalItems js

def canonicalMembers : List (String × Json) → List (String × Json)
  | [] => []
  | (key, value) :: members => (key, canonical value) :: canonicalMembers members

end

theorem canonicalItems_eq (items : List Json) : canonicalItems items = items.map canonical := by
  induction items with
  | nil => rfl
  | cons j js ih => rw [canonicalItems, ih, List.map_cons]

mutual

theorem equal_iff : ∀ a b : Json, equal a b = true ↔ a.canonical = b.canonical
  | null, b => by cases b <;> simp [equal, canonical]
  | bool x, b => by cases b <;> simp [equal, canonical]
  | number m, b => by cases b <;> simp [equal, canonical, JsonNumber.equal_iff]
  | string s, b => by cases b <;> simp [equal, canonical]
  | array xs, b => by
    cases b with
    | array ys => rw [equal, equalItems_iff xs ys, canonical, canonical, array.injEq]
    | _ => simp [equal, canonical]
  | object ms, b => by
    cases b with
    | object ns => rw [equal, equalMembers_iff ms ns, canonical, canonical, object.injEq]
    | _ => simp [equal, canonical]

theorem equalItems_iff : ∀ xs ys : List Json, equalItems xs ys = true ↔ canonicalItems xs = canonicalItems ys
  | [], ys => by cases ys <;> simp [equalItems, canonicalItems]
  | x :: xs, ys => by
    cases ys with
    | nil => simp [equalItems, canonicalItems]
    | cons y ys =>
      rw [equalItems, Bool.and_eq_true, equal_iff x y, equalItems_iff xs ys, canonicalItems, canonicalItems,
        List.cons.injEq]

theorem equalMembers_iff : ∀ ms ns : List (String × Json),
    equalMembers ms ns = true ↔ canonicalMembers ms = canonicalMembers ns
  | [], ns => by cases ns <;> simp [equalMembers, canonicalMembers]
  | (k, x) :: ms, ns => by
    cases ns with
    | nil => simp [equalMembers, canonicalMembers]
    | cons n ns =>
      obtain ⟨l, y⟩ := n
      rw [equalMembers, Bool.and_eq_true, Bool.and_eq_true, decide_eq_true_eq, equal_iff x y, equalMembers_iff ms ns,
        canonicalMembers, canonicalMembers, List.cons.injEq, Prod.mk.injEq]

end

theorem beq_iff (a b : Json) : (a == b) = true ↔ a.canonical = b.canonical := equal_iff a b

/-! ## Members -/

theorem member?_canonical (key : String) (members : List (String × Json)) :
    member? key (canonicalMembers members) = (member? key members).map canonical := by
  induction members with
  | nil => rfl
  | cons m ms ih =>
    obtain ⟨k, v⟩ := m
    rw [canonicalMembers, member?, member?]
    split
    · rfl
    · exact ih

theorem get?_canonical (key : String) (j : Json) : j.canonical.get? key = (j.get? key).map canonical := by
  cases j with
  | object members => exact member?_canonical key members
  | _ => rfl

end Json

end RecordQuery
