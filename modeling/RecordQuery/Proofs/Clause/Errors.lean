import RecordQuery.Clause.Compile
import RecordQuery.Proofs.Attempt

/-! What can go wrong when conditions are compiled: only that an operand does not suit its lookup. A lookup then says
what kind of value it got; only a pattern that cannot be read and bounds that are no two values have errors of their
own, and of several values the first that is no scalar is blamed. Whether records have the fields, and whether sets can
be joined, is none of it. -/
namespace RecordQuery
set_option autoImplicit false

/-- An error about an operand. -/
def QueryError.OfOperand : QueryError → Prop
  | invalidPattern _ _ => True
  | unsupportedOperand _ _ => True
  | invalidRange _ => True
  | unknownField _ => False
  | foreignRecords => False

open QueryError

/-! ## Refusals -/

/-- Lists and objects, which serve neither as items of a list to search nor as bounds. -/
def Json.isCompound : Json → Bool
  | array _ | object _ => true
  | _ => false

namespace Lookup

/-- The error about a literal that the lookup does not take. -/
def literalRefusal (l : Lookup) (j : Json) : QueryError :=
  match l, j with
  | regex, .string source => .invalidPattern false source
  | iregex, .string source => .invalidPattern true source
  | oneOf, .array items => l.refusal ((items.find? Json.isCompound).getD j)
  | range, .array [low, high] =>
    if low.isNull || high.isNull then .invalidRange j else l.refusal (([low, high].find? Json.isCompound).getD j)
  | range, j => .invalidRange j
  | l, j => l.refusal j

/-- The error about an operand that the lookup does not take. -/
def refusalOf (l : Lookup) : Operand → QueryError
  | .literal j => l.literalRefusal j
  | operand => .unsupportedOperand l operand.kind

theorem ofOperand_literalRefusal (l : Lookup) (j : Json) : (l.literalRefusal j).OfOperand := by
  unfold literalRefusal
  split
  · trivial
  · trivial
  · trivial
  · split <;> trivial
  · trivial
  · trivial

theorem ofOperand_refusalOf (l : Lookup) (operand : Operand) : (l.refusalOf operand).OfOperand := by
  cases operand with
  | literal j => exact l.ofOperand_literalRefusal j
  | _ => trivial

/-! ## Literals -/

section Literals

variable (l : Lookup) (j : Json)

theorem scalar_cases :
    (j.isCompound = false ∧ ∃ v, l.scalar j = .ok v) ∨ (j.isCompound = true ∧ l.scalar j = .error (l.refusal j)) := by
  cases j with
  | array _ | object _ => exact .inr ⟨rfl, rfl⟩
  | _ => exact .inl ⟨rfl, _, rfl⟩

theorem scalar_refusal : FailsAs (· = l.refusal j) (l.scalar j) := by
  rcases l.scalar_cases j with ⟨-, v, hv⟩ | ⟨-, he⟩
  · rw [hv]
    exact failsAs_ok v
  · rw [he]
    exact failsAs_error rfl

/-- Of several values, the first that is no scalar is blamed. -/
theorem scalars_refusal (js : List Json) (other : Json) :
    FailsAs (· = l.refusal ((js.find? Json.isCompound).getD other)) (l.scalars js) := by
  induction js with
  | nil => exact failsAs_ok []
  | cons j js ih =>
    rw [scalars, List.find?_cons]
    rcases l.scalar_cases j with ⟨hj, v, hv⟩ | ⟨hj, he⟩
    · rw [hj, hv]
      exact ih.bind fun vs => failsAs_ok (v :: vs)
    · rw [hj, he]
      exact failsAs_error rfl

theorem geometryOperand_refusal : FailsAs (· = l.refusal j) (l.geometryOperand j) := by
  rw [geometryOperand]
  split
  · exact failsAs_ok _
  · exact failsAs_error rfl

theorem patternOperand_refusal (source : String) :
    FailsAs (· = QueryError.invalidPattern (l == iregex) source) (l.patternOperand (.string source)) := by
  rw [patternOperand]
  split
  · exact failsAs_ok _
  · exact failsAs_error rfl

theorem stringOperand_refusal : FailsAs (· = l.refusal j) (l.stringOperand j) := by
  cases j with
  | string s => exact failsAs_ok _
  | _ => exact failsAs_error rfl

theorem equalOperand_refusal : FailsAs (· = l.refusal j) (l.equalOperand j) := by
  cases j with
  | object ms => exact l.geometryOperand_refusal (.object ms)
  | _ => exact l.scalar_refusal _

theorem orderedOperand_refusal : FailsAs (· = l.refusal j) (l.orderedOperand j) := by
  cases j with
  | null => exact failsAs_error rfl
  | _ => exact l.scalar_refusal _

theorem boundsOperand_refusal : ∀ j : Json, FailsAs (· = range.literalRefusal j) (range.boundsOperand j)
  | .array [low, high] => by
    rw [boundsOperand, literalRefusal]
    split
    · exact failsAs_error rfl
    · exact (range.scalars_refusal [low, high] _).map _
  | .array [] | .array [_] | .array (_ :: _ :: _ :: _) => failsAs_error rfl
  | .null | .bool _ | .number _ | .string _ | .object _ => failsAs_error rfl

theorem literalOperand_refusal : FailsAs (· = l.literalRefusal j) (l.literalOperand j) := by
  cases l with
  | regex | iregex =>
    cases j with
    | string source => exact patternOperand_refusal _ source
    | _ => exact failsAs_error rfl
  | oneOf =>
    cases j with
    | array items => exact (oneOf.scalars_refusal items _).map _
    | _ => exact failsAs_error rfl
  | range => exact boundsOperand_refusal j
  | isNull =>
    cases j with
    | bool b => exact failsAs_ok _
    | _ => exact failsAs_error rfl
  | boxContains | boxOverlaps | contained => exact geometryOperand_refusal _ j
  | iexact | contains | icontains | startsWith | istartsWith | endsWith | iendsWith =>
    exact stringOperand_refusal _ j
  | exact => exact equalOperand_refusal _ j
  | gt | gte | lt | lte => exact orderedOperand_refusal _ j

end Literals

end Lookup

/-! ## Conditions -/

namespace Clause

/-- An operand that is refused gives the error about it. -/
theorem ofLeaf_refusal (path : String) (operand : Operand) :
    FailsAs (· = (Lookup.ofPath path).2.refusalOf operand) (ofLeaf path operand) := by
  unfold ofLeaf
  generalize Lookup.ofPath path = place
  obtain ⟨field, l⟩ := place
  cases operand with
  | literal j => exact (l.literalOperand_refusal j).bind fun value => failsAs_ok _
  | group conditions => exact failsAs_error rfl
  | geometry g =>
    dsimp only
    split
    · exact failsAs_ok _
    · exact failsAs_error rfl
  | field other =>
    dsimp only
    split
    · exact failsAs_ok _
    · exact failsAs_error rfl

theorem ofLeaf_fails (path : String) (operand : Operand) : FailsAs OfOperand (ofLeaf path operand) :=
  (ofLeaf_refusal path operand).mono fun _ he => he ▸ Lookup.ofOperand_refusalOf _ operand

mutual

theorem compile_fails : ∀ (path : String) (operand : Operand), FailsAs OfOperand (compile path operand)
  | path, .group conditions => by
    rw [compile]
    exact compileUnder_fails path conditions
  | path, .literal j => by
    rw [compile]
    exact (ofLeaf_fails path (.literal j)).bind fun c => failsAs_ok [c]
  | path, .geometry g => by
    rw [compile]
    exact (ofLeaf_fails path (.geometry g)).bind fun c => failsAs_ok [c]
  | path, .field other => by
    rw [compile]
    exact (ofLeaf_fails path (.field other)).bind fun c => failsAs_ok [c]

theorem compileUnder_fails : ∀ (outer : String) (conditions : List (String × Operand)),
    FailsAs OfOperand (compileUnder outer conditions)
  | outer, [] => by
    rw [compileUnder]
    exact failsAs_ok []
  | outer, (inner, operand) :: conditions => by
    rw [compileUnder]
    exact (compile_fails (Text.joinPath outer inner) operand).bind fun first =>
      (compileUnder_fails outer conditions).bind fun rest => failsAs_ok (first ++ rest)

end

theorem compileAll_fails (conditions : List Condition) : FailsAs OfOperand (compileAll conditions) := by
  induction conditions with
  | nil => exact failsAs_ok []
  | cons condition conditions ih =>
    rw [compileAll]
    exact (compile_fails condition.1 condition.2).bind fun first => ih.bind fun rest => failsAs_ok (first ++ rest)

end Clause

end RecordQuery
