import RecordQuery.Proofs.Clause.Groups
import RecordQuery.Proofs.Paths
import RecordQuery.Proofs.RecordSet.Operations
import RecordQuery.Proofs.QueryTree.Meaning

/-! Lookups that others spell out. A range takes just the bounds that the two comparisons take one by one, and holds
where both hold; membership in a list of scalars holds where equality with one of them does. -/
namespace RecordQuery
set_option autoImplicit false

/-! ## Scalars -/

/-- A string, a number or a boolean: what has a place in an order. -/
def Json.isScalar : Json → Bool
  | string _ | number _ | bool _ => true
  | _ => false

namespace ClauseValue

/-- What a lookup compares with where it is given a scalar; null is none here. -/
def comparable? : Json → Option ClauseValue
  | .string s => some (string s)
  | .number n => some (number (Number.ofJson n))
  | .bool b => some (bool b)
  | _ => none

inductive IsScalar : ClauseValue → Prop where
  | string (s : String) : IsScalar (string s)
  | number (n : Number) : IsScalar (number n)
  | bool (b : Bool) : IsScalar (bool b)

theorem isScalar_of_comparable? (j : Json) (v : ClauseValue) (h : comparable? j = some v) : v.IsScalar := by
  cases j with
  | string s => exact Option.some.inj h ▸ .string s
  | number n => exact Option.some.inj h ▸ .number _
  | bool b => exact Option.some.inj h ▸ .bool b
  | _ => exact absurd h nofun

theorem comparable?_of_isScalar (j : Json) (h : j.isScalar = true) : ∃ v, comparable? j = some v := by
  cases j with
  | string s => exact ⟨_, rfl⟩
  | number n => exact ⟨_, rfl⟩
  | bool b => exact ⟨_, rfl⟩
  | _ => exact absurd h nofun

theorem IsScalar.reads {v : ClauseValue} (h : v.IsScalar) (field : String) (l : Lookup) :
    (Clause.mk field l v).reads = [field] := by
  cases h <;> rfl

end ClauseValue

open ClauseValue

/-! ## Operands -/

namespace Lookup

theorem scalar_of_comparable? (l : Lookup) (j : Json) (v : ClauseValue) (h : comparable? j = some v) :
    l.scalar j = .ok v := by
  cases j with
  | string _ | number _ | bool _ =>
    rw [← Option.some.inj h]
    rfl
  | _ => exact absurd h nofun

theorem isNull_of_comparable? (j : Json) (v : ClauseValue) (h : comparable? j = some v) : j.isNull = false := by
  cases j with
  | null => exact absurd h nofun
  | _ => rfl

/-- What is neither a scalar nor null is no operand of a comparison. -/
theorem scalar_of_not_comparable? (l : Lookup) (j : Json) (hnull : j.isNull = false) (h : comparable? j = none) :
    l.scalar j = .error (l.refusal j) := by
  cases j with
  | null => exact absurd hnull nofun
  | string _ | number _ | bool _ => exact absurd h nofun
  | array _ | object _ => rfl

theorem orderedOperand_eq (l : Lookup) (j : Json) :
    l.orderedOperand j = match comparable? j with
      | some v => .ok v
      | none => .error (l.refusal j) := by
  cases j <;> rfl

theorem equalOperand_of_comparable? (l : Lookup) (j : Json) (v : ClauseValue) (h : comparable? j = some v) :
    l.equalOperand j = .ok v := by
  cases j with
  | object _ => exact absurd h nofun
  | _ => exact l.scalar_of_comparable? _ v h

theorem literalOperand_range (low high : Json) (a b : ClauseValue) (ha : comparable? low = some a)
    (hb : comparable? high = some b) : range.literalOperand (.array [low, high]) = .ok (.list [a, b]) := by
  have hnull : (low.isNull || high.isNull) = false := by
    rw [isNull_of_comparable? low a ha, isNull_of_comparable? high b hb, Bool.or_false]
  rw [literalOperand, boundsOperand, hnull, if_neg Bool.false_ne_true, scalars, scalars, scalars,
    scalar_of_comparable? range low a ha, scalar_of_comparable? range high b hb]
  rfl

/-- Bounds are refused where either is no scalar, though the reason is not always the same. -/
theorem literalOperand_range_fails (low high : Json) (h : comparable? low = none ∨ comparable? high = none) :
    ∃ e, range.literalOperand (.array [low, high]) = .error e := by
  rw [literalOperand, boundsOperand]
  cases hnull : low.isNull || high.isNull with
  | true =>
    rw [if_pos rfl]
    exact ⟨_, rfl⟩
  | false =>
    obtain ⟨hlow, hhigh⟩ := Bool.or_eq_false_iff.mp hnull
    rw [if_neg Bool.false_ne_true, scalars, scalars, scalars]
    rcases h with h | h
    · rw [scalar_of_not_comparable? range low hlow h]
      exact ⟨_, rfl⟩
    · rw [scalar_of_not_comparable? range high hhigh h]
      cases range.scalar low with
      | error e => exact ⟨e, rfl⟩
      | ok v => exact ⟨_, rfl⟩

theorem literalOperand_exact (j : Json) (v : ClauseValue) (h : comparable? j = some v) :
    exact.literalOperand j = .ok v := by
  rw [literalOperand, equalOperand_of_comparable? exact j v h]

theorem scalars_of_isScalar (l : Lookup) (js : List Json) (h : ∀ j ∈ js, j.isScalar = true) :
    l.scalars js = .ok (js.filterMap comparable?) := by
  induction js with
  | nil => rfl
  | cons j js ih =>
    obtain ⟨hj, hjs⟩ := List.forall_mem_cons.mp h
    obtain ⟨v, hv⟩ := comparable?_of_isScalar j hj
    rw [scalars, l.scalar_of_comparable? j v hv, ih hjs, List.filterMap_cons, hv]
    rfl

theorem literalOperand_oneOf (js : List Json) (h : ∀ j ∈ js, j.isScalar = true) :
    oneOf.literalOperand (.array js) = .ok (.list (js.filterMap comparable?)) := by
  rw [literalOperand, listOperand, scalars_of_isScalar oneOf js h]
  rfl

/-! ## Matching -/

section Matching

variable (read : String → Value) (field : Value)

theorem matchValue_scalar (l : Lookup) (hl : l.takesField = true) {v : ClauseValue} (hv : v.IsScalar) :
    l.matchValue read field v = (!field.isMissing && l.matchScalar field v) := by
  cases l with
  | exact | gt | gte | lt | lte => cases hv <;> rfl
  | _ => exact absurd hl nofun

theorem matchValue_range {a b : ClauseValue} (ha : a.IsScalar) (hb : b.IsScalar) :
    range.matchValue read field (.list [a, b]) =
      (gte.matchValue read field a && lte.matchValue read field b) := by
  rw [matchValue_scalar read field gte rfl ha, matchValue_scalar read field lte rfl hb]
  change (!field.isMissing && (gte.matchScalar field a && lte.matchScalar field b)) = _
  cases field.isMissing <;> rfl

theorem matchValue_oneOf (items : List ClauseValue) (h : ∀ v ∈ items, v.IsScalar) :
    oneOf.matchValue read field (.list items) = items.any (exact.matchValue read field) := by
  change (!field.isMissing && items.any (exact.matchScalar field)) = _
  induction items with
  | nil => rw [List.any_nil, List.any_nil, Bool.and_false]
  | cons v vs ih =>
    obtain ⟨hv, hvs⟩ := List.forall_mem_cons.mp h
    rw [List.any_cons, List.any_cons, ← ih hvs, matchValue_scalar read field exact rfl hv,
      Bool.and_or_distrib_left]

end Matching

end Lookup

/-! ## Conditions with a lookup in their path -/

/-- The condition that compares a field with a literal by a lookup. -/
def lookupCondition (field : String) (l : Lookup) (value : Json) : Condition :=
  (Text.joinPath field l.name, .literal value)

section Conditions

variable (field : String) (hfield : field ≠ "") (l : Lookup) (value : Json)

include hfield in
theorem compileAll_lookupCondition :
    Clause.compileAll [lookupCondition field l value] =
      (l.literalOperand value).map fun v => [Clause.mk field l v] := by
  rw [Clause.compileAll_singleton, lookupCondition, Clause.compile, Clause.ofLeaf, l.ofPath_joinPath field hfield]
  dsimp only
  cases l.literalOperand value <;> rfl

variable {R : Type} [Record R]

include hfield in
theorem conditionsHold_lookupCondition (v : ClauseValue) (h : l.literalOperand value = .ok v) (r : R) :
    conditionsHold [lookupCondition field l value] r =
      l.matchValue (Record.value r) (Record.value r field) v := by
  rw [conditionsHold, compileAll_lookupCondition field hfield, h, map_ok]
  exact Bool.and_true _

include hfield in
theorem conditionsHold_lookupCondition_of_error (e : QueryError) (h : l.literalOperand value = .error e) (r : R) :
    conditionsHold [lookupCondition field l value] r = false := by
  rw [conditionsHold, compileAll_lookupCondition field hfield, h, map_error]

include hfield in
theorem compile_lookupCondition_succeeds (v : ClauseValue) (h : l.literalOperand value = .ok v)
    (hreads : (Clause.mk field l v).reads = [field]) :
    (∃ clauses, RecordSet.compile R [lookupCondition field l value] = .ok clauses) ↔
      Record.knows R field = true := by
  have hcompile := compileAll_lookupCondition field hfield l value
  rw [h, map_ok] at hcompile
  simp only [RecordSet.compile_eq_ok, hcompile, Except.ok.injEq, exists_eq_left', RecordSet.checkFields_eq_ok,
    List.flatMap_cons, List.flatMap_nil, hreads, List.append_nil, List.forall_mem_singleton]

include hfield in
theorem compile_lookupCondition_fails (e : QueryError) (h : l.literalOperand value = .error e) :
    ¬∃ clauses, RecordSet.compile R [lookupCondition field l value] = .ok clauses := by
  rintro ⟨clauses, hc⟩
  have hcompile := RecordSet.compileAll_of_compile _ clauses hc
  rw [compileAll_lookupCondition field hfield, h, map_error] at hcompile
  exact absurd hcompile nofun

/-! ## Comparisons, ranges and memberships -/

/-- What a comparison, which takes scalars alone, holds of a record. -/
def comparisonHolds (r : R) : Bool :=
  match comparable? value with
  | some v => l.matchValue (Record.value r) (Record.value r field) v
  | none => false

include hfield

theorem compile_comparison (hl : ∀ j, l.literalOperand j = l.orderedOperand j) :
    (∃ clauses, RecordSet.compile R [lookupCondition field l value] = .ok clauses) ↔
      (∃ v, comparable? value = some v) ∧ Record.knows R field = true := by
  have hoperand := (hl value).trans (l.orderedOperand_eq value)
  cases hv : comparable? value with
  | none =>
    rw [hv] at hoperand
    have hfails := compile_lookupCondition_fails (R := R) field hfield l value _ hoperand
    simp only [hfails, reduceCtorEq, exists_false, false_and]
  | some v =>
    rw [hv] at hoperand
    have hreads := (isScalar_of_comparable? value v hv).reads field l
    rw [compile_lookupCondition_succeeds field hfield l value v hoperand hreads]
    simp only [Option.some.injEq, exists_eq', true_and]

theorem conditionsHold_comparison (hl : ∀ j, l.literalOperand j = l.orderedOperand j) (r : R) :
    conditionsHold [lookupCondition field l value] r = comparisonHolds field l value r := by
  have hoperand := (hl value).trans (l.orderedOperand_eq value)
  rw [comparisonHolds]
  cases hv : comparable? value with
  | none =>
    rw [hv] at hoperand
    exact conditionsHold_lookupCondition_of_error field hfield l value _ hoperand r
  | some v =>
    rw [hv] at hoperand
    exact conditionsHold_lookupCondition field hfield l value v hoperand r

variable (low high : Json)

theorem compile_range :
    (∃ clauses, RecordSet.compile R [lookupCondition field .range (.array [low, high])] = .ok clauses) ↔
      ((∃ a, comparable? low = some a) ∧ ∃ b, comparable? high = some b) ∧ Record.knows R field = true := by
  by_cases h : comparable? low = none ∨ comparable? high = none
  · obtain ⟨e, he⟩ := Lookup.literalOperand_range_fails low high h
    refine iff_of_false (compile_lookupCondition_fails field hfield .range _ e he) ?_
    rintro ⟨⟨⟨a, ha⟩, b, hb⟩, _⟩
    simp only [ha, hb, reduceCtorEq, or_self] at h
  · obtain ⟨hlow, hhigh⟩ := not_or.mp h
    obtain ⟨a, ha⟩ := Option.ne_none_iff_exists'.mp hlow
    obtain ⟨b, hb⟩ := Option.ne_none_iff_exists'.mp hhigh
    have hoperand := Lookup.literalOperand_range low high a b ha hb
    rw [compile_lookupCondition_succeeds field hfield .range _ _ hoperand rfl]
    exact (and_iff_right ⟨⟨a, ha⟩, b, hb⟩).symm

/-- A range holds where both comparisons with its bounds do. -/
theorem conditionsHold_range (r : R) :
    conditionsHold [lookupCondition field .range (.array [low, high])] r =
      (comparisonHolds field .gte low r && comparisonHolds field .lte high r) := by
  rw [comparisonHolds, comparisonHolds]
  cases ha : comparable? low with
  | none =>
    obtain ⟨e, he⟩ := Lookup.literalOperand_range_fails low high (.inl ha)
    rw [conditionsHold_lookupCondition_of_error field hfield .range _ e he, Bool.false_and]
  | some a =>
    cases hb : comparable? high with
    | none =>
      obtain ⟨e, he⟩ := Lookup.literalOperand_range_fails low high (.inr hb)
      rw [conditionsHold_lookupCondition_of_error field hfield .range _ e he, Bool.and_false]
    | some b =>
      have hoperand := Lookup.literalOperand_range low high a b ha hb
      rw [conditionsHold_lookupCondition field hfield .range _ _ hoperand]
      exact Lookup.matchValue_range _ _ (isScalar_of_comparable? low a ha) (isScalar_of_comparable? high b hb)

theorem compile_equality (hvalue : value.isScalar = true) :
    (∃ clauses, RecordSet.compile R [lookupCondition field .exact value] = .ok clauses) ↔
      Record.knows R field = true := by
  obtain ⟨v, hv⟩ := comparable?_of_isScalar value hvalue
  have hreads := (isScalar_of_comparable? value v hv).reads field .exact
  exact compile_lookupCondition_succeeds field hfield .exact value v (Lookup.literalOperand_exact value v hv) hreads

variable (values : List Json) (hvalues : ∀ v ∈ values, v.isScalar = true)

include hvalues

theorem compile_oneOf :
    (∃ clauses, RecordSet.compile R [lookupCondition field .oneOf (.array values)] = .ok clauses) ↔
      Record.knows R field = true :=
  compile_lookupCondition_succeeds field hfield .oneOf _ _ (Lookup.literalOperand_oneOf values hvalues) rfl

theorem conditionsHold_oneOf (r : R) :
    conditionsHold [lookupCondition field .oneOf (.array values)] r =
      values.any fun value => conditionsHold [lookupCondition field .exact value] r := by
  have hscalar : ∀ v ∈ values.filterMap comparable?, v.IsScalar := by
    intro v hv
    obtain ⟨j, _, hj⟩ := List.mem_filterMap.mp hv
    exact isScalar_of_comparable? j v hj
  rw [conditionsHold_lookupCondition field hfield .oneOf _ _ (Lookup.literalOperand_oneOf values hvalues),
    Lookup.matchValue_oneOf _ _ _ hscalar, List.any_filterMap, Bool.eq_iff_iff, List.any_eq_true, List.any_eq_true]
  refine exists_congr fun value => and_congr_right fun hmem => ?_
  obtain ⟨v, hv⟩ := comparable?_of_isScalar value (hvalues value hmem)
  rw [conditionsHold_lookupCondition field hfield .exact value v (Lookup.literalOperand_exact value v hv), hv]

end Conditions

end RecordQuery
