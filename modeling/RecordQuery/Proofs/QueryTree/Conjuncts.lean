import RecordQuery.Proofs.Clause.Groups
import RecordQuery.Proofs.QueryTree.Outcome

/-! Conditions taken one by one. A filter by several conditions does what the filters by each of them do one after
the other, and an exclusion what the exclusions by each of them do joined: a record that fails one condition stays. -/
namespace RecordQuery
set_option autoImplicit false

/-! ## Compiling one by one -/

theorem Clause.compileAll_cons_eq_ok (condition : Condition) (conditions : List Condition) (clauses : List Clause) :
    compileAll (condition :: conditions) = .ok clauses ↔
      ∃ first rest, compile condition.1 condition.2 = .ok first ∧ compileAll conditions = .ok rest ∧
        first ++ rest = clauses := by
  simp only [compileAll, bind_eq_ok, Except.ok.injEq, exists_and_left]

section Compiling

variable {R : Type} [Record R]

theorem RecordSet.compile_cons_succeeds (condition : Condition) (conditions : List Condition) :
    (∃ clauses, compile R (condition :: conditions) = .ok clauses) ↔
      (∃ clauses, compile R [condition] = .ok clauses) ∧ ∃ clauses, compile R conditions = .ok clauses := by
  simp only [compile_eq_ok, Clause.compileAll_cons_eq_ok, Clause.compileAll_singleton, checkFields_eq_ok]
  constructor
  · rintro ⟨_, ⟨first, rest, hfirst, hrest, rfl⟩, hknown⟩
    rw [List.flatMap_append, List.forall_mem_append] at hknown
    exact ⟨⟨first, hfirst, hknown.1⟩, rest, hrest, hknown.2⟩
  · rintro ⟨⟨first, hfirst, hknown⟩, rest, hrest, hknown'⟩
    refine ⟨first ++ rest, ⟨first, rest, hfirst, hrest, rfl⟩, ?_⟩
    rw [List.flatMap_append, List.forall_mem_append]
    exact ⟨hknown, hknown'⟩

theorem RecordSet.compile_succeeds (conditions : List Condition) :
    (∃ clauses, compile R conditions = .ok clauses) ↔
      ∀ condition ∈ conditions, ∃ clauses, compile R [condition] = .ok clauses := by
  induction conditions with
  | nil => exact ⟨fun _ _ h => absurd h List.not_mem_nil, fun _ => ⟨[], rfl⟩⟩
  | cons condition conditions ih => rw [compile_cons_succeeds, ih, List.forall_mem_cons]

theorem conditionsHold_cons (condition : Condition) (conditions : List Condition) (r : R) :
    conditionsHold (condition :: conditions) r = (conditionsHold [condition] r && conditionsHold conditions r) := by
  rw [conditionsHold, conditionsHold, conditionsHold, Clause.compileAll_singleton, Clause.compileAll]
  cases Clause.compile condition.1 condition.2 with
  | error e => rfl
  | ok first =>
    cases Clause.compileAll conditions with
    | error e => simp
    | ok rest => simp only [ok_bind, RecordSet.meets, List.all_append]

end Compiling

/-! ## Trees -/

namespace QueryTree

variable {R : Type} [Record R] (form : ConditionForm)

def filtersByEach (conditions : List Condition) : List QueryTree := conditions.map fun c => filter form [c]

def exclusionsByEach (conditions : List Condition) : List QueryTree := conditions.map fun c => exclude form [c]

variable (conditions : List Condition)

theorem everySelects_filtersByEach (r : R) :
    everySelects (filtersByEach form conditions) r = conditionsHold conditions r := by
  induction conditions with
  | nil => rfl
  | cons c cs ih =>
    rw [conditionsHold_cons, ← ih]
    rfl

theorem someSelects_exclusionsByEach (r : R) :
    someSelects (exclusionsByEach form conditions) r = !conditionsHold conditions r := by
  induction conditions with
  | nil => rfl
  | cons c cs ih =>
    rw [conditionsHold_cons, Bool.not_and, ← ih]
    rfl

theorem orderingsAfterEach_filtersByEach (os : List OrderBy) :
    orderingsAfterEach (filtersByEach form conditions) os = os := by
  induction conditions with
  | nil => rfl
  | cons c cs ih => exact ih

theorem someAsksDistinct_filtersByEach : someAsksDistinct (filtersByEach form conditions) = false := by
  induction conditions with
  | nil => rfl
  | cons c cs ih => exact ih

theorem someAsksDistinct_exclusionsByEach : someAsksDistinct (exclusionsByEach form conditions) = false := by
  induction conditions with
  | nil => rfl
  | cons c cs ih => exact ih

theorem check_filter_iff : (filter form conditions).check R = .ok () ↔
    ∃ clauses, RecordSet.compile R conditions = .ok clauses := by
  rw [check, map_eq_ok]
  simp

theorem check_exclude_iff : (exclude form conditions).check R = .ok () ↔
    ∃ clauses, RecordSet.compile R conditions = .ok clauses := by
  rw [check, map_eq_ok]
  simp

/-- A filter by several conditions is the conjunction of the filters by each. -/
theorem filter_agrees (q : RecordSet R) (hq : q.SoundRows) :
    Agree ((filter form conditions).apply q) ((allOf (filtersByEach form conditions)).apply q) := by
  refine agree_of_effect _ _ q hq ?_ (Effect.ext ?_ ?_ ?_)
  · rw [check_filter_iff, RecordSet.compile_succeeds, check, checkEach_eq_ok]
    simp only [filtersByEach, List.forall_mem_map, check_filter_iff]
  · exact funext fun r => (everySelects_filtersByEach form conditions r).symm
  · exact funext fun os => (orderingsAfterEach_filtersByEach form conditions os).symm
  · exact (someAsksDistinct_filtersByEach form conditions).symm

/-- An exclusion by several conditions is the disjunction of the exclusions by each. -/
theorem exclude_agrees (q : RecordSet R) (hq : q.SoundRows) :
    Agree ((exclude form conditions).apply q) ((anyOf (exclusionsByEach form conditions)).apply q) := by
  refine agree_of_effect _ _ q hq ?_ (Effect.ext ?_ ?_ ?_)
  · rw [check_exclude_iff, RecordSet.compile_succeeds, check, checkEach_eq_ok]
    simp only [exclusionsByEach, List.forall_mem_map, check_exclude_iff]
  · exact funext fun r => (someSelects_exclusionsByEach form conditions r).symm
  · rfl
  · exact (someAsksDistinct_exclusionsByEach form conditions).symm

/-! ## Filters that say the same -/

theorem someSelects_filtersByEach (r : R) :
    someSelects (filtersByEach form conditions) r = conditions.any fun c => conditionsHold [c] r := by
  rw [someSelects_eq_any, filtersByEach, List.any_map]
  rfl

/-- Filters by conditions that are refused together and hold of the same records. -/
theorem filter_agrees_filter (others : List Condition) (q : RecordSet R) (hq : q.SoundRows)
    (hcompile : (∃ clauses, RecordSet.compile R conditions = .ok clauses) ↔
      ∃ clauses, RecordSet.compile R others = .ok clauses)
    (hhold : ∀ r : R, conditionsHold conditions r = conditionsHold others r) :
    Agree ((filter form conditions).apply q) ((filter form others).apply q) := by
  refine agree_of_effect _ _ q hq ?_ (Effect.ext (funext hhold) rfl rfl)
  rw [check_filter_iff, check_filter_iff, hcompile]

/-- A filter by conditions that hold where one of the others does is the disjunction of the filters by those. -/
theorem filter_agrees_anyOf (others : List Condition) (q : RecordSet R) (hq : q.SoundRows)
    (hcompile : (∃ clauses, RecordSet.compile R conditions = .ok clauses) ↔
      ∀ c ∈ others, ∃ clauses, RecordSet.compile R [c] = .ok clauses)
    (hhold : ∀ r : R, conditionsHold conditions r = others.any fun c => conditionsHold [c] r) :
    Agree ((filter form conditions).apply q) ((anyOf (filtersByEach form others)).apply q) := by
  refine agree_of_effect _ _ q hq ?_ (Effect.ext (funext fun r => ?_) rfl ?_)
  · rw [check_filter_iff, hcompile, check, checkEach_eq_ok]
    simp only [filtersByEach, List.forall_mem_map, check_filter_iff]
  · exact (hhold r).trans (someSelects_filtersByEach form others r).symm
  · exact (someAsksDistinct_filtersByEach form others).symm

end QueryTree

end RecordQuery
