import Mathlib.Data.List.Sort
import RecordQuery.OrderBy

/-! Sorting by insertion. The result has the elements that were given, whatever the comparison. Where the comparison
is a total preorder they stand in order, and those that compare equal as they were given. -/
namespace RecordQuery
set_option autoImplicit false

universe v
variable {α : Type v}

/-! ## Elements -/

section Elements

variable (cmp : α → α → Ordering)

theorem perm_insertReversed (x : α) (ys : List α) : (insertReversed cmp x ys).Perm (x :: ys) := by
  induction ys with
  | nil => exact .refl _
  | cons y ys ih =>
    rw [insertReversed]
    split
    · exact (ih.cons y).trans (.swap x y ys)
    · exact .refl _

theorem perm_foldl_insertReversed (xs sorted : List α) :
    (xs.foldl (fun sorted x => insertReversed cmp x sorted) sorted).Perm (xs ++ sorted) := by
  induction xs generalizing sorted with
  | nil => exact .refl _
  | cons x xs ih =>
    have hinsert : (xs ++ insertReversed cmp x sorted).Perm (xs ++ x :: sorted) :=
      (perm_insertReversed cmp x sorted).append_left xs
    exact (ih _).trans (hinsert.trans List.perm_middle)

theorem perm_stableSort (xs : List α) : (stableSort cmp xs).Perm xs := by
  have h := perm_foldl_insertReversed cmp xs []
  rw [List.append_nil] at h
  exact (List.reverse_perm _).trans h

end Elements

/-! ## Order -/

/-- Stands before another element: strictly, or by a tie that some other relation breaks. -/
def Precedes (cmp : α → α → Ordering) (tie : α → α → Prop) (a b : α) : Prop :=
  cmp a b = .lt ∨ cmp a b = .eq ∧ tie a b

section Order

variable {cmp : α → α → Ordering} {tie : α → α → Prop}

theorem Precedes.isLE {a b : α} (h : Precedes cmp tie a b) : (cmp a b).isLE := by
  rcases h with h | ⟨h, _⟩ <;> rw [h] <;> rfl

theorem precedes_of_isLE {a b : α} (h : (cmp a b).isLE) (htie : tie a b) : Precedes cmp tie a b := by
  cases hc : cmp a b with
  | lt => exact .inl hc
  | eq => exact .inr ⟨hc, htie⟩
  | gt =>
    rw [hc] at h
    exact absurd h nofun

variable [Std.TransCmp cmp]

/-- An element that comes after all others in the order given goes behind those that it ties with. -/
theorem pairwise_insertReversed (x : α) (ys : List α) (h : ys.Pairwise fun b a => Precedes cmp tie a b)
    (hlast : ∀ y ∈ ys, tie y x) : (insertReversed cmp x ys).Pairwise fun b a => Precedes cmp tie a b := by
  induction ys with
  | nil => exact List.pairwise_singleton _ x
  | cons y ys ih =>
    obtain ⟨hy, hys⟩ := List.pairwise_cons.mp h
    obtain ⟨hlasty, hlastys⟩ := List.forall_mem_cons.mp hlast
    rw [insertReversed]
    split
    · rename_i hlt
      refine List.pairwise_cons.mpr ⟨fun z hz => ?_, ih hys hlastys⟩
      rcases List.mem_cons.mp ((perm_insertReversed cmp x ys).mem_iff.mp hz) with rfl | hz
      · exact .inl hlt
      · exact hy z hz
    · rename_i hnlt
      have hyx : (cmp y x).isLE := Ordering.isLE_iff_ne_gt.mpr fun hgt => hnlt (Std.OrientedCmp.gt_iff_lt.mp hgt)
      refine List.pairwise_cons.mpr ⟨fun z hz => ?_, h⟩
      rcases List.mem_cons.mp hz with rfl | hzys
      · exact precedes_of_isLE hyx hlasty
      · exact precedes_of_isLE (Std.TransCmp.isLE_trans (hy z hzys).isLE hyx) (hlastys z hzys)

theorem pairwise_foldl_insertReversed (xs sorted : List α) (hxs : xs.Pairwise tie)
    (hsorted : sorted.Pairwise fun b a => Precedes cmp tie a b) (hlast : ∀ x ∈ xs, ∀ y ∈ sorted, tie y x) :
    (xs.foldl (fun sorted x => insertReversed cmp x sorted) sorted).Pairwise fun b a => Precedes cmp tie a b := by
  induction xs generalizing sorted with
  | nil => exact hsorted
  | cons x xs ih =>
    obtain ⟨hx, hxs⟩ := List.pairwise_cons.mp hxs
    obtain ⟨hlastx, hlastxs⟩ := List.forall_mem_cons.mp hlast
    refine ih _ hxs (pairwise_insertReversed x sorted hsorted hlastx) fun z hz y hy => ?_
    rcases List.mem_cons.mp ((perm_insertReversed cmp x sorted).mem_iff.mp hy) with rfl | hy
    · exact hx z hz
    · exact hlastxs z hz y hy

/-- Sorting puts elements in order and breaks ties as the order given does. -/
theorem pairwise_stableSort (xs : List α) (h : xs.Pairwise tie) :
    (stableSort cmp xs).Pairwise (Precedes cmp tie) :=
  List.pairwise_reverse.mpr <| pairwise_foldl_insertReversed xs [] h List.Pairwise.nil fun _ _ _ hy =>
    absurd hy List.not_mem_nil

end Order

/-! ## Comparisons that agree -/

section Agreement

variable (cmp other : α → α → Ordering)

theorem insertReversed_congr (x : α) (ys : List α) (h : ∀ y ∈ ys, cmp x y = other x y) :
    insertReversed cmp x ys = insertReversed other x ys := by
  induction ys with
  | nil => rfl
  | cons y ys ih =>
    obtain ⟨hy, hys⟩ := List.forall_mem_cons.mp h
    rw [insertReversed, insertReversed, hy, ih hys]

/-- Sorting compares nothing but elements of the list. -/
theorem stableSort_congr (xs : List α) (h : ∀ x ∈ xs, ∀ y ∈ xs, cmp x y = other x y) :
    stableSort cmp xs = stableSort other xs := by
  have hfoldl : ∀ rest sorted, rest ⊆ xs → sorted ⊆ xs →
      rest.foldl (fun sorted x => insertReversed cmp x sorted) sorted =
        rest.foldl (fun sorted x => insertReversed other x sorted) sorted := by
    intro rest
    induction rest with
    | nil => exact fun _ _ _ => rfl
    | cons x rest ih =>
      intro sorted hrest hsorted
      obtain ⟨hx, hrest⟩ := List.cons_subset.mp hrest
      rw [List.foldl_cons, List.foldl_cons, ← insertReversed_congr cmp other x sorted fun y hy => h x hx y (hsorted hy)]
      refine ih _ hrest fun y hy => ?_
      rcases List.mem_cons.mp ((perm_insertReversed cmp x sorted).mem_iff.mp hy) with rfl | hy
      · exact hx
      · exact hsorted hy
  rw [stableSort, stableSort, hfoldl xs [] (List.Subset.refl xs) (List.nil_subset xs)]

end Agreement

end RecordQuery
