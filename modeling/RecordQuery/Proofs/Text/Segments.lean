import RecordQuery.Text.Basic

/-! The segments of a path. They are cut from the left as soon as two underscores stand together, so what follows a
text never changes the cuts within it, and only the last segment may have an underscore at its end, which takes one
from a separator that comes after it. -/
namespace RecordQuery.Text
set_option autoImplicit false

/-! ## Cuts -/

theorem segments_ne_nil (cs : List Char) : segments cs ≠ [] := by
  fun_cases segments cs <;> exact List.cons_ne_nil _ _

/-- A character that begins no separator belongs to the first segment. -/
theorem segments_cons (c : Char) (cs : List Char) (h : c = '_' → cs.head? ≠ some '_') :
    segments (c :: cs) = (segments cs).modifyHead (List.cons c) := by
  rw [segments.eq_def]
  split
  · rename_i heq
    obtain ⟨rfl, rfl⟩ := List.cons.inj heq
    exact absurd rfl (h rfl)
  · rename_i heq
    obtain ⟨rfl, rfl⟩ := List.cons.inj heq
    cases hcs : segments cs with
    | nil => exact absurd hcs (segments_ne_nil cs)
    | cons s ss => rfl
  · rename_i heq
    exact absurd heq (List.cons_ne_nil _ _)

theorem intercalate_segments (cs : List Char) : separator.intercalate (segments cs) = cs := by
  fun_induction segments cs with
  | case1 cs ih =>
    rw [List.intercalate_cons_of_ne_nil (segments_ne_nil cs), ih]
    rfl
  | case2 c cs hcut s ss hs ih =>
    rw [hs] at ih
    cases ss with
    | nil =>
      rw [List.intercalate_singleton] at ih ⊢
      rw [ih]
    | cons t ts =>
      rw [List.intercalate_cons_cons] at ih ⊢
      rw [List.cons_append, List.cons_append, ih]
  | case3 c cs hcut hs ih => exact absurd hs (segments_ne_nil cs)
  | case4 => rfl

theorem eq_of_segments_singleton (cs s : List Char) (h : segments cs = [s]) : s = cs := by
  have hjoin := intercalate_segments cs
  rwa [h, List.intercalate_singleton] at hjoin

/-- What is cut within a text stays cut whatever comes after it. -/
theorem segments_append (cs rest : List Char) (front : List (List Char)) (last : List Char)
    (h : segments cs = front ++ [last]) : segments (cs ++ rest) = front ++ segments (last ++ rest) := by
  fun_induction segments cs generalizing front with
  | case1 cs ih =>
    cases front with
    | nil => exact absurd (List.cons.inj h).2 (segments_ne_nil cs)
    | cons s front =>
      obtain ⟨rfl, hcs⟩ := List.cons.inj h
      exact congrArg (List.cons []) (ih front hcs)
  | case2 c cs hcut s ss hs ih =>
    cases front with
    | nil =>
      obtain ⟨rfl, rfl⟩ := List.cons.inj h
      rw [eq_of_segments_singleton cs s hs]
      rfl
    | cons t front =>
      obtain ⟨rfl, rfl⟩ := List.cons.inj h
      have hrest := ih (s :: front) hs
      have hhead : c = '_' → (cs ++ rest).head? ≠ some '_' := by
        intro hc hhead
        cases cs with
        | nil => exact absurd (List.cons.inj hs).2.symm (List.append_ne_nil_of_right_ne_nil _ (List.cons_ne_nil _ _))
        | cons d ds =>
          rw [List.cons_append, List.head?_cons, Option.some.injEq] at hhead
          exact hcut ds hc (by rw [hhead])
      rw [List.cons_append, segments_cons c (cs ++ rest) hhead, hrest]
      rfl
  | case3 c cs hcut hs ih => exact absurd hs (segments_ne_nil cs)
  | case4 =>
    cases front with
    | nil =>
      obtain ⟨rfl, -⟩ := List.cons.inj h
      rfl
    | cons s front => exact absurd (List.cons.inj h).2.symm (by simp)

/-! ## Texts without a separator -/

theorem separator_prefix_cons (c : Char) (cs : List Char) :
    separator <+: c :: cs ↔ c = '_' ∧ cs.head? = some '_' := by
  cases cs with
  | nil => simp [separator]
  | cons d ds => simp [separator, List.cons_prefix_cons, eq_comm]

theorem segments_eq_singleton (s : List Char) : segments s = [s] ↔ ¬separator <:+: s := by
  induction s with
  | nil => simp [segments, separator]
  | cons c s ih =>
    rw [List.infix_cons_iff, separator_prefix_cons, not_or, ← ih]
    by_cases hcut : c = '_' ∧ s.head? = some '_'
    · obtain ⟨rfl, hhead⟩ := hcut
      obtain ⟨t, rfl⟩ := List.head?_eq_some_iff.mp hhead
      simp [segments]
    · rw [segments_cons c s (not_and.mp hcut), and_iff_right hcut]
      obtain ⟨first, more, hs⟩ := List.exists_cons_of_ne_nil (segments_ne_nil s)
      rw [hs]
      simp

theorem segments_of_not_mem (s : List Char) (h : '_' ∉ s) : segments s = [s] := by
  rw [segments_eq_singleton]
  exact fun hs => h (hs.subset List.mem_cons_self)

theorem not_infix_last (cs : List Char) (front : List (List Char)) (last : List Char)
    (h : segments cs = front ++ [last]) : ¬separator <:+: last := by
  have happend := segments_append cs [] front last h
  rw [List.append_nil, List.append_nil, h] at happend
  exact (segments_eq_singleton last).mp (List.append_cancel_left happend).symm

/-! ## A separator after a text -/

/-- A separator after a segment is cut off if the segment leaves it both of its underscores. -/
theorem segments_separator (s cs : List Char) (h : ¬separator <:+: s) (hlast : s.getLast? ≠ some '_') :
    segments (s ++ '_' :: '_' :: cs) = s :: segments cs := by
  induction s with
  | nil => rfl
  | cons c s ih =>
    rw [List.infix_cons_iff, separator_prefix_cons, not_or] at h
    have hrest : segments (s ++ '_' :: '_' :: cs) = s :: segments cs := by
      refine ih h.2 fun hs => hlast ?_
      rw [List.getLast?_cons, hs]
      rfl
    have hcut : c = '_' → (s ++ '_' :: '_' :: cs).head? ≠ some '_' := by
      intro hc
      cases s with
      | nil => exact absurd (congrArg some hc) hlast
      | cons d s => exact not_and.mp h.1 hc
    rw [List.cons_append, segments_cons c _ hcut, hrest]
    rfl

/-- Keys without separators are the segments of the path that they make, if those before the last leave each separator
both of its underscores. -/
theorem segments_intercalate (keys : List (List Char)) (hne : keys ≠ []) (hkeys : ∀ key ∈ keys, ¬separator <:+: key)
    (hends : ∀ key ∈ keys.dropLast, key.getLast? ≠ some '_') : segments (separator.intercalate keys) = keys := by
  induction keys with
  | nil => exact absurd rfl hne
  | cons key keys ih =>
    obtain ⟨hkey, hkeys⟩ := List.forall_mem_cons.mp hkeys
    cases keys with
    | nil => rw [List.intercalate_singleton, (segments_eq_singleton key).mpr hkey]
    | cons next keys =>
      rw [List.dropLast_cons_cons] at hends
      obtain ⟨hend, hends⟩ := List.forall_mem_cons.mp hends
      rw [List.intercalate_cons_cons, List.append_assoc]
      exact (segments_separator key _ hkey hend).trans (congrArg _ (ih (List.cons_ne_nil _ _) hkeys hends))

theorem segments_append_separator (cs after : List Char) (front : List (List Char)) (last : List Char)
    (h : segments cs = front ++ [last]) (hlast : last.getLast? ≠ some '_') :
    segments (cs ++ '_' :: '_' :: after) = front ++ last :: segments after := by
  rw [segments_append cs _ front last h, segments_separator last after (not_infix_last cs front last h) hlast]

theorem segments_append_separator_of_underscore (cs after : List Char) (front : List (List Char)) (s : List Char)
    (h : segments cs = front ++ [s ++ ['_']]) :
    segments (cs ++ '_' :: '_' :: after) = front ++ s :: segments ('_' :: after) := by
  have hlast := not_infix_last cs front _ h
  have hinner : ¬separator <:+: s := fun hs => hlast (hs.trans (List.prefix_append s ['_']).isInfix)
  have hend : s.getLast? ≠ some '_' := by
    intro hend
    obtain ⟨t, rfl⟩ := List.getLast?_eq_some_iff.mp hend
    exact hlast ⟨t, [], by simp [separator]⟩
  have hmove : s ++ ['_'] ++ '_' :: '_' :: after = s ++ '_' :: '_' :: '_' :: after := by simp
  rw [segments_append cs _ front _ h, hmove, segments_separator s _ hinner hend]

end RecordQuery.Text
