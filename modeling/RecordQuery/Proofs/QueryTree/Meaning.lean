import RecordQuery.Proofs.Attempt
import RecordQuery.QueryTree
import RecordQuery.RecordSet

/-! What a tree means for sets of records, said without a set: which records it selects, what becomes of the sort
keys, whether it asks for distinct results, and what it refuses. -/
namespace RecordQuery
set_option autoImplicit false

/-- Whether a record meets every clause that conditions compile to. -/
def conditionsHold {R : Type} [Record R] (conditions : List Condition) (r : R) : Bool :=
  match Clause.compileAll conditions with
  | .ok clauses => RecordSet.meets clauses r
  | .error _ => false

namespace QueryTree

/-! ## Selection -/

section Selection

variable {R : Type} [Record R]

mutual

/-- Whether a tree selects a record. -/
def selects : QueryTree → R → Bool
  | identity, _ => true
  | all, _ => true
  | filter _ cs, r => conditionsHold cs r
  | exclude _ cs, r => !conditionsHold cs r
  | orderBy _, _ => true
  | distinct, _ => true
  | allOf ts, r => everySelects ts r
  | anyOf ts, r => someSelects ts r

def everySelects : List QueryTree → R → Bool
  | [], _ => true
  | t :: ts, r => selects t r && everySelects ts r

def someSelects : List QueryTree → R → Bool
  | [], _ => false
  | t :: ts, r => selects t r || someSelects ts r

end

theorem someSelects_eq_any (ts : List QueryTree) (r : R) : someSelects ts r = ts.any (·.selects r) := by
  induction ts with
  | nil => rfl
  | cons t ts ih => rw [someSelects, ih, List.any_cons]

end Selection

/-! ## Sort keys and distinct results -/

mutual

/-- The sort keys after a tree; a disjunction leaves them as they are. -/
def orderingsAfter : QueryTree → List OrderBy → List OrderBy
  | identity, os => os
  | all, os => os
  | filter _ _, os => os
  | exclude _ _, os => os
  | orderBy entries, _ => entries.filterMap OrderBy.parse?
  | distinct, os => os
  | allOf ts, os => orderingsAfterEach ts os
  | anyOf _, os => os

def orderingsAfterEach : List QueryTree → List OrderBy → List OrderBy
  | [], os => os
  | t :: ts, os => orderingsAfterEach ts (orderingsAfter t os)

end

mutual

/-- Whether a tree asks for distinct results anywhere. -/
def asksDistinct : QueryTree → Bool
  | identity => false
  | all => false
  | filter _ _ => false
  | exclude _ _ => false
  | orderBy _ => false
  | distinct => true
  | allOf ts => someAsksDistinct ts
  | anyOf ts => someAsksDistinct ts

def someAsksDistinct : List QueryTree → Bool
  | [] => false
  | t :: ts => asksDistinct t || someAsksDistinct ts

end

mutual

/-- A tree leaves the sort keys alone, or puts in their place the same ones whatever they were. -/
theorem orderingsAfter_same_or_const : ∀ t : QueryTree,
    (∀ os, t.orderingsAfter os = os) ∨ ∃ keys, ∀ os, t.orderingsAfter os = keys
  | identity => .inl fun os => by rw [orderingsAfter]
  | all => .inl fun os => by rw [orderingsAfter]
  | filter _ _ => .inl fun os => by rw [orderingsAfter]
  | exclude _ _ => .inl fun os => by rw [orderingsAfter]
  | orderBy entries => .inr ⟨entries.filterMap OrderBy.parse?, fun os => by rw [orderingsAfter]⟩
  | distinct => .inl fun os => by rw [orderingsAfter]
  | allOf ts => by
    simp only [orderingsAfter]
    exact orderingsAfterEach_same_or_const ts
  | anyOf _ => .inl fun os => by rw [orderingsAfter]

theorem orderingsAfterEach_same_or_const : ∀ ts : List QueryTree,
    (∀ os, orderingsAfterEach ts os = os) ∨ ∃ keys, ∀ os, orderingsAfterEach ts os = keys
  | [] => .inl fun os => by rw [orderingsAfterEach]
  | t :: ts => by
    simp only [orderingsAfterEach]
    rcases orderingsAfterEach_same_or_const ts with hts | ⟨keys, hts⟩
    · simp only [hts]
      exact orderingsAfter_same_or_const t
    · exact .inr ⟨keys, fun os => hts (t.orderingsAfter os)⟩

end

theorem orderingsAfter_idem (t : QueryTree) (os : List OrderBy) :
    t.orderingsAfter (t.orderingsAfter os) = t.orderingsAfter os := by
  rcases orderingsAfter_same_or_const t with h | ⟨keys, h⟩
  · rw [h, h]
  · rw [h, h]

/-! ## Refusals -/

section Refusals

variable (R : Type) [Record R]

mutual

/-- Whether a tree can be applied to sets of records, and if not, why: its leaves are checked in order. -/
def check : QueryTree → Except QueryError Unit
  | identity => .ok ()
  | all => .ok ()
  | filter _ cs => (RecordSet.compile R cs).map fun _ => ()
  | exclude _ cs => (RecordSet.compile R cs).map fun _ => ()
  | orderBy entries => RecordSet.checkFields R ((entries.filterMap OrderBy.parse?).map OrderBy.field)
  | distinct => .ok ()
  | allOf ts => checkEach ts
  | anyOf ts => checkEach ts

def checkEach : List QueryTree → Except QueryError Unit
  | [] => .ok ()
  | t :: ts => do
    check t
    checkEach ts

end

theorem checkEach_append (ts us : List QueryTree) :
    checkEach R (ts ++ us) = checkEach R ts >>= fun _ => checkEach R us := by
  induction ts with
  | nil => rfl
  | cons t ts ih =>
    rw [List.cons_append, checkEach, checkEach, ih]
    cases check R t <;> rfl

theorem checkEach_eq_ok (ts : List QueryTree) : checkEach R ts = .ok () ↔ ∀ t ∈ ts, t.check R = .ok () := by
  induction ts with
  | nil => simp [checkEach]
  | cons t ts ih =>
    rw [checkEach, List.forall_mem_cons, ← ih]
    cases t.check R <;> simp

/-- Trees that are checked one after the other fail as the first of them that fails. -/
theorem checkEach_eq_error (ts : List QueryTree) (e : QueryError) :
    checkEach R ts = .error e ↔
      ∃ before t after, ts = before ++ t :: after ∧ (∀ u ∈ before, u.check R = .ok ()) ∧ t.check R = .error e := by
  have hcons : ∀ t ts e, checkEach R (t :: ts) = .error e ↔
      t.check R = .error e ∨ (∃ a, t.check R = .ok a) ∧ checkEach R ts = .error e := by
    intro t ts e
    rw [checkEach]
    cases t.check R <;> simp
  rw [eq_error_iff_first nofun hcons]
  simp only [succeeds_iff]

end Refusals

/-! ## Leaves -/

mutual

/-- The parts of a tree that are no composites, depth first and from the left. -/
def leaves : QueryTree → List QueryTree
  | identity => [identity]
  | all => [all]
  | filter form cs => [filter form cs]
  | exclude form cs => [exclude form cs]
  | orderBy entries => [orderBy entries]
  | distinct => [distinct]
  | allOf ts => leavesOfEach ts
  | anyOf ts => leavesOfEach ts

def leavesOfEach : List QueryTree → List QueryTree
  | [] => []
  | t :: ts => leaves t ++ leavesOfEach ts

end

/-- The conditions of each filter and each exclusion in a tree. -/
def conditionLists (t : QueryTree) : List (List Condition) := t.leaves.filterMap conditions?

section Leaves

variable (R : Type) [Record R]

theorem checkEach_singleton (t : QueryTree) : checkEach R [t] = t.check R := by
  rw [checkEach]
  cases t.check R <;> rfl

mutual

theorem checkEach_leaves : ∀ t : QueryTree, checkEach R t.leaves = t.check R
  | identity => by rw [leaves, checkEach_singleton]
  | all => by rw [leaves, checkEach_singleton]
  | filter form cs => by rw [leaves, checkEach_singleton]
  | exclude form cs => by rw [leaves, checkEach_singleton]
  | orderBy entries => by rw [leaves, checkEach_singleton]
  | distinct => by rw [leaves, checkEach_singleton]
  | allOf ts => by rw [leaves, check, checkEach_leavesOfEach ts]
  | anyOf ts => by rw [leaves, check, checkEach_leavesOfEach ts]

theorem checkEach_leavesOfEach : ∀ ts : List QueryTree, checkEach R (leavesOfEach ts) = checkEach R ts
  | [] => by rw [leavesOfEach]
  | t :: ts => by
    rw [leavesOfEach, checkEach_append, checkEach_leaves t, checkEach_leavesOfEach ts]
    rfl

end

end Leaves

end QueryTree

end RecordQuery
