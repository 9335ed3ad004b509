import Mathlib.Data.List.Sort
import RecordQuery.RecordSet

/-! Rows that two sets have together: sorting both lists brings repetitions side by side, and without them the
rows stand in strictly increasing order. Such a list is determined by its members. -/
namespace RecordQuery.RecordSet
set_option autoImplicit false

/-! ## Repetitions side by side -/

theorem eraseReps_loop (x : Nat) (xs seen : List Nat) :
    List.eraseRepsBy.loop (· == ·) x xs seen = seen.reverse ++ (x :: xs).eraseReps := by
  induction xs generalizing x seen with
  | nil => simp [List.eraseReps, List.eraseRepsBy, List.eraseRepsBy.loop]
  | cons y ys ih =>
    simp only [List.eraseReps, List.eraseRepsBy, List.eraseRepsBy.loop] at ih ⊢
    cases x == y with
    | true => exact ih x seen
    | false =>
      rw [ih y (x :: seen), ih y [x]]
      simp

theorem eraseReps_cons_cons (x y : Nat) (ys : List Nat) :
    (x :: y :: ys).eraseReps = if x = y then (y :: ys).eraseReps else x :: (y :: ys).eraseReps := by
  change List.eraseRepsBy.loop (· == ·) x (y :: ys) [] = _
  rw [List.eraseRepsBy.loop]
  by_cases h : x = y
  · rw [if_pos h, beq_iff_eq.mpr h, h]
    exact eraseReps_loop y ys []
  · rw [if_neg h, beq_eq_false_iff_ne.mpr h]
    exact eraseReps_loop y ys [x]

theorem mem_eraseReps (i : Nat) (rows : List Nat) : i ∈ rows.eraseReps ↔ i ∈ rows := by
  induction rows with
  | nil => rfl
  | cons x xs ih =>
    cases xs with
    | nil => rfl
    | cons y ys =>
      rw [eraseReps_cons_cons]
      by_cases h : x = y
      · rw [if_pos h, ih, h]
        simp
      · rw [if_neg h, List.mem_cons, ih, ← List.mem_cons]

/-- In a sorted list all repetitions stand side by side. -/
theorem increasing_eraseReps (rows : List Nat) (h : rows.Pairwise (· ≤ ·)) :
    rows.eraseReps.Pairwise (· < ·) := by
  induction rows with
  | nil => exact List.Pairwise.nil
  | cons x xs ih =>
    cases xs with
    | nil => exact List.pairwise_singleton _ x
    | cons y ys =>
      obtain ⟨hx, hxs⟩ := List.pairwise_cons.mp h
      rw [eraseReps_cons_cons]
      by_cases hxy : x = y
      · rw [if_pos hxy]
        exact ih hxs
      · rw [if_neg hxy, List.pairwise_cons]
        refine ⟨fun i hi => ?_, ih hxs⟩
        have hy : x < y := lt_of_le_of_ne (hx y List.mem_cons_self) hxy
        rcases List.mem_cons.mp ((mem_eraseReps i _).mp hi) with rfl | hi
        · exact hy
        · exact hy.trans_le ((List.pairwise_cons.mp hxs).1 i hi)

/-! ## Joined rows -/

theorem mem_mergeRows (i : Nat) (rows others : List Nat) :
    i ∈ mergeRows rows others ↔ i ∈ rows ∨ i ∈ others := by
  rw [mergeRows, mem_eraseReps, List.mem_mergeSort, List.mem_append]

/-- Joined rows are increasing whatever the order of the rows that are joined. -/
theorem increasing_mergeRows (rows others : List Nat) : (mergeRows rows others).Pairwise (· < ·) :=
  increasing_eraseReps _ (List.pairwise_mergeSort' (· ≤ ·) (rows ++ others))

/-- No other increasing list has the members of both. -/
theorem mergeRows_eq (rows others joined : List Nat) (h : joined.Pairwise (· < ·))
    (hmem : ∀ i, i ∈ joined ↔ i ∈ rows ∨ i ∈ others) : mergeRows rows others = joined := by
  refine (increasing_mergeRows rows others).eq_of_mem_iff h fun i => ?_
  rw [mem_mergeRows, hmem]

theorem mergeRows_nil (rows : List Nat) (h : rows.Pairwise (· < ·)) : mergeRows rows [] = rows := by
  refine mergeRows_eq rows [] rows h fun i => ?_
  simp

theorem mergeRows_assoc (rows others more : List Nat) :
    mergeRows (mergeRows rows others) more = mergeRows rows (mergeRows others more) := by
  refine mergeRows_eq _ _ _ (increasing_mergeRows _ _) fun i => ?_
  simp only [mem_mergeRows, or_assoc]

/-- Two selections among increasing rows, joined, are one selection by either test. -/
theorem mergeRows_filter (rows : List Nat) (h : rows.Pairwise (· < ·)) (p q : Nat → Bool) :
    mergeRows (rows.filter p) (rows.filter q) = rows.filter fun i => p i || q i := by
  refine mergeRows_eq _ _ _ (h.filter _) fun i => ?_
  rw [List.mem_filter, List.mem_filter, List.mem_filter, Bool.or_eq_true, and_or_left]

end RecordQuery.RecordSet
