import Mathlib.Data.List.Nodup
import RecordQuery.RecordSet

/-! First occurrences. Of elements that are the same the first is kept, wherever the others stand. Where sameness is
that of some view, what is kept is told by views alone: every view once, however the elements are arranged. -/
namespace RecordQuery.RecordSet
set_option autoImplicit false

variable {α β : Type} (same : α → α → Bool)

theorem sublist_firstOccurrences (seen xs : List α) : (firstOccurrences same seen xs).Sublist xs := by
  induction xs generalizing seen with
  | nil => exact .slnil
  | cons x xs ih =>
    rw [firstOccurrences]
    split
    · exact (ih seen).cons x
    · exact (ih _).cons_cons x

theorem map_firstOccurrences (f : β → α) (seen xs : List β) :
    (firstOccurrences (fun a b => same (f a) (f b)) seen xs).map f =
      firstOccurrences same (seen.map f) (xs.map f) := by
  induction xs generalizing seen with
  | nil => rfl
  | cons x xs ih =>
    rw [List.map_cons, firstOccurrences, firstOccurrences, List.any_map, Function.comp_def]
    split
    · exact ih seen
    · rw [List.map_cons, ih, List.map_append, List.map_singleton]

variable {same} {view : α → β} (hsame : ∀ a b, same a b = true ↔ view a = view b)

include hsame

theorem any_same_iff (seen : List α) (x : α) : seen.any (same · x) = true ↔ view x ∈ seen.map view := by
  rw [List.any_eq_true, List.mem_map]
  exact exists_congr fun a => and_congr_right fun _ => hsame a x

/-- The views that are kept are those not seen before. -/
theorem mem_map_firstOccurrences (k : β) (seen xs : List α) :
    k ∈ (firstOccurrences same seen xs).map view ↔ k ∈ xs.map view ∧ k ∉ seen.map view := by
  induction xs generalizing seen with
  | nil => simp [firstOccurrences]
  | cons x xs ih =>
    rw [firstOccurrences]
    split
    · rename_i h
      have hx := (any_same_iff hsame seen x).mp h
      rw [ih, List.map_cons, List.mem_cons]
      constructor
      · exact fun ⟨hk, hseen⟩ => ⟨.inr hk, hseen⟩
      · rintro ⟨rfl | hk, hseen⟩
        · exact absurd hx hseen
        · exact ⟨hk, hseen⟩
    · rename_i h
      have hx : view x ∉ seen.map view := mt (any_same_iff hsame seen x).mpr h
      rw [List.map_cons, List.map_cons, List.mem_cons, List.mem_cons, ih, List.map_append, List.map_singleton,
        List.mem_append, List.mem_singleton, not_or]
      by_cases hk : k = view x
      · subst hk
        exact iff_of_true (.inl rfl) ⟨.inl rfl, hx⟩
      · simp [hk]

theorem nodup_map_firstOccurrences (seen xs : List α) : ((firstOccurrences same seen xs).map view).Nodup := by
  induction xs generalizing seen with
  | nil => exact List.nodup_nil
  | cons x xs ih =>
    rw [firstOccurrences]
    split
    · exact ih seen
    · rw [List.map_cons, List.nodup_cons, mem_map_firstOccurrences hsame]
      refine ⟨fun ⟨_, h⟩ => h ?_, ih _⟩
      rw [List.map_append]
      exact List.mem_append_right _ List.mem_cons_self

/-- Two elements that are kept are not the same. -/
theorem pairwise_firstOccurrences (xs : List α) :
    (firstOccurrences same [] xs).Pairwise fun a b => same a b = false := by
  have hnodup := List.pairwise_map.mp (nodup_map_firstOccurrences hsame [] xs)
  exact hnodup.imp fun hne => Bool.eq_false_iff.mpr (mt (hsame _ _).mp hne)

/-- Every element is the same as just one that is kept. -/
theorem countP_firstOccurrences {x : α} {xs : List α} (h : x ∈ xs) :
    (firstOccurrences same [] xs).countP (same x) = 1 := by
  classical
  have hview : view x ∈ (firstOccurrences same [] xs).map view :=
    (mem_map_firstOccurrences hsame (view x) [] xs).mpr ⟨List.mem_map_of_mem h, List.not_mem_nil⟩
  have hcount := List.count_eq_one_of_mem (nodup_map_firstOccurrences hsame [] xs) hview
  rw [List.count, List.countP_map] at hcount
  rw [← hcount]
  refine List.countP_congr fun y _ => ?_
  rw [hsame, Function.comp_apply, beq_iff_eq, eq_comm]

/-- However elements are arranged, as many of them are kept. -/
theorem length_firstOccurrences_perm {xs ys : List α} (h : xs.Perm ys) :
    (firstOccurrences same [] xs).length = (firstOccurrences same [] ys).length := by
  have hperm : ((firstOccurrences same [] xs).map view).Perm ((firstOccurrences same [] ys).map view) := by
    refine (List.perm_ext_iff_of_nodup (nodup_map_firstOccurrences hsame [] xs)
      (nodup_map_firstOccurrences hsame [] ys)).mpr fun k => ?_
    rw [mem_map_firstOccurrences hsame, mem_map_firstOccurrences hsame, (h.map view).mem_iff]
  have hlength := hperm.length_eq
  rwa [List.length_map, List.length_map] at hlength

/-- A test that cannot tell the same elements apart may be made before or after. -/
theorem filter_firstOccurrences (p : α → Bool) (hp : ∀ a b, view a = view b → p a = p b) (seen xs : List α) :
    (firstOccurrences same seen xs).filter p = firstOccurrences same (seen.filter p) (xs.filter p) := by
  induction xs generalizing seen with
  | nil => rfl
  | cons x xs ih =>
    by_cases hx : p x = true
    · -- what was seen and is the same as an element that passes has passed as well
      have hany : (seen.filter p).any (same · x) = seen.any (same · x) := by
        rw [Bool.eq_iff_iff, any_same_iff hsame, any_same_iff hsame, List.mem_map, List.mem_map]
        refine exists_congr fun a => and_congr_left fun ha => ?_
        rw [List.mem_filter, hp a x ha]
        exact and_iff_left hx
      rw [List.filter_cons_of_pos hx, firstOccurrences, firstOccurrences, hany]
      split
      · exact ih seen
      · rw [List.filter_cons_of_pos hx, ih, List.filter_append, List.filter_cons_of_pos hx, List.filter_nil]
    · rw [List.filter_cons_of_neg hx, firstOccurrences]
      split
      · exact ih seen
      · rw [List.filter_cons_of_neg hx, ih, List.filter_append, List.filter_cons_of_neg hx, List.filter_nil,
          List.append_nil]

end RecordQuery.RecordSet
