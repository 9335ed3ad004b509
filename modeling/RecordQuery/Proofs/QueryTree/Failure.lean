import RecordQuery.Proofs.Clause.Errors
import RecordQuery.Proofs.QueryTree.Outcome

/-! Failures of trees. They depend on the tree and on the fields that records declare, on no record and no
selection: a tree fails as the first of its leaves that fails by itself, and never because sets cannot be joined. -/
namespace RecordQuery
set_option autoImplicit false

variable {R : Type} [Record R]

namespace RecordSet

theorem checkFields_fails (paths : List String) :
    FailsAs (· ≠ QueryError.foreignRecords) (checkFields R paths) := by
  intro e he
  obtain ⟨-, path, -, -, -, -, rfl⟩ := (checkFields_eq_error paths e).mp he
  exact nofun

theorem compile_fails (conditions : List Condition) :
    FailsAs (· ≠ QueryError.foreignRecords) (compile R conditions) := by
  have hoperand : ∀ e : QueryError, e.OfOperand → e ≠ .foreignRecords := by
    rintro e he rfl
    exact he
  exact ((Clause.compileAll_fails conditions).mono hoperand).bind fun clauses =>
    (checkFields_fails _).bind fun _ => failsAs_ok clauses

end RecordSet

namespace QueryTree

mutual

theorem check_fails : ∀ t : QueryTree, FailsAs (· ≠ QueryError.foreignRecords) (t.check R)
  | identity => by
    rw [check]
    exact failsAs_ok ()
  | all => by
    rw [check]
    exact failsAs_ok ()
  | filter _ cs => by
    rw [check]
    exact (RecordSet.compile_fails cs).map _
  | exclude _ cs => by
    rw [check]
    exact (RecordSet.compile_fails cs).map _
  | orderBy entries => by
    rw [check]
    exact RecordSet.checkFields_fails _
  | distinct => by
    rw [check]
    exact failsAs_ok ()
  | allOf ts => by
    rw [check]
    exact checkEach_fails ts
  | anyOf ts => by
    rw [check]
    exact checkEach_fails ts

theorem checkEach_fails : ∀ ts : List QueryTree, FailsAs (· ≠ QueryError.foreignRecords) (checkEach R ts)
  | [] => by
    rw [checkEach]
    exact failsAs_ok ()
  | t :: ts => by
    rw [checkEach]
    exact (check_fails t).bind fun _ => checkEach_fails ts

end

theorem apply_eq_error (t : QueryTree) (s : RecordSet R) (e : QueryError) :
    t.apply s = .error e ↔ t.check R = .error e := by
  rw [← apply_check t s, map_eq_error]

theorem apply_succeeds (t : QueryTree) (s : RecordSet R) : (∃ s', t.apply s = .ok s') ↔ t.check R = .ok () := by
  rw [← apply_check t s, map_eq_ok]
  exact exists_congr fun s' => (and_iff_left rfl).symm

/-- Whether a tree fails, and how, is the same for any two sets of one type of records. It fails as its first leaf
that fails on a set of its own, and joining sets is never the reason. -/
theorem apply_error_of_leaves (t : QueryTree) (p q : RecordSet R) :
    (∀ e, t.apply p = .error e ↔ t.apply q = .error e) ∧
    (∀ e, t.apply p = .error e ↔
      ∃ before leaf after, t.leaves = before ++ leaf :: after ∧
        (∀ l ∈ before, ∃ s, l.apply q = .ok s) ∧ leaf.apply q = .error e) ∧
    ((∀ l ∈ t.leaves, ∃ s, l.apply q = .ok s) → ∃ s, t.apply p = .ok s) ∧
    t.apply p ≠ .error .foreignRecords := by
  refine ⟨fun e => ?_, fun e => ?_, fun h => ?_, fun h => ?_⟩
  · rw [apply_eq_error, apply_eq_error]
  · simp only [apply_eq_error, apply_succeeds]
    rw [← checkEach_leaves R t]
    exact checkEach_eq_error R t.leaves e
  · simp only [apply_succeeds] at h ⊢
    rw [← checkEach_leaves R t]
    exact (checkEach_eq_ok R t.leaves).mpr h
  · exact check_fails t _ ((apply_eq_error t p _).mp h) rfl

end QueryTree

end RecordQuery
