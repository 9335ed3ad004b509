import RecordQuery.Lookup
import RecordQuery.Proofs.Text.Segments

/-! Paths that end with the name of a lookup. No name holds an underscore, so the last separator of such a path is the
one before the name, whatever stands in front of it. The segments of the path, which are cut from the left, need not
end there: a field keeps all of its underscores from the lookup, but not from the cuts. -/
namespace RecordQuery
set_option autoImplicit false

/-! ## The last separator -/

namespace Text

theorem lastCut?_cons_of_some (c : Char) (cs before after : List Char) (h : lastCut? cs = some (before, after)) :
    lastCut? (c :: cs) = some (c :: before, after) := by
  rw [lastCut?.eq_def]
  simp only [h]

theorem lastCut?_cons_of_none (c : Char) (cs : List Char) (h : lastCut? cs = none)
    (hc : c = '_' → cs.head? ≠ some '_') : lastCut? (c :: cs) = none := by
  rw [lastCut?.eq_def]
  simp only [h]
  split
  · exact absurd rfl (hc rfl)
  · rfl

theorem lastCut?_eq_none (cs : List Char) (h : '_' ∉ cs) : lastCut? cs = none := by
  induction cs with
  | nil => rfl
  | cons c cs ih =>
    have hc : c ≠ '_' := fun he => h (he ▸ List.mem_cons_self)
    exact lastCut?_cons_of_none c cs (ih fun hcs => h (List.mem_cons_of_mem c hcs)) fun he => absurd he hc

theorem lastCut?_append (before after : List Char) (h : '_' ∉ after) :
    lastCut? (before ++ '_' :: '_' :: after) = some (before, after) := by
  induction before with
  | nil =>
    -- the underscore next to the name cuts nothing by itself, since no name begins with another one
    have hone : lastCut? ('_' :: after) = none :=
      lastCut?_cons_of_none '_' after (lastCut?_eq_none after h) fun _ he => h (List.mem_of_mem_head? he)
    rw [List.nil_append, lastCut?, hone]
  | cons c cs ih => exact lastCut?_cons_of_some c _ cs after ih

theorem lastCut?_eq_some (cs before after : List Char) (h : lastCut? cs = some (before, after)) :
    cs = before ++ '_' :: '_' :: after := by
  induction cs generalizing before with
  | nil => exact absurd h nofun
  | cons c cs ih =>
    rw [lastCut?.eq_def] at h
    cases hcs : lastCut? cs with
    | some cut =>
      obtain ⟨b, a⟩ := cut
      simp only [hcs, Option.some.injEq, Prod.mk.injEq] at h
      obtain ⟨rfl, rfl⟩ := h
      rw [ih b hcs, List.cons_append]
    | none =>
      simp only [hcs] at h
      split at h
      · simp only [Option.some.injEq, Prod.mk.injEq] at h
        obtain ⟨rfl, rfl⟩ := h
        rfl
      · exact absurd h nofun

theorem toList_joinPath (outer inner : String) :
    (joinPath outer inner).toList = outer.toList ++ '_' :: '_' :: inner.toList := by
  rw [joinPath, String.toList_append, String.toList_append, List.append_assoc]
  rfl

end Text

/-! ## Lookups at the end of a path -/

namespace Lookup

theorem underscore_not_mem_name (l : Lookup) : '_' ∉ l.name.toList := by
  cases l <;> decide

theorem ofName?_name (l : Lookup) : ofName? l.name = some l := by
  cases l <;> rfl

theorem ofPath_joinPath (field : String) (l : Lookup) (h : field ≠ "") :
    ofPath (Text.joinPath field l.name) = (field, l) := by
  have hempty : field.toList ≠ [] := fun he => h (String.toList_eq_nil_iff.mp he)
  rw [ofPath, Text.toList_joinPath, Text.lastCut?_append _ _ l.underscore_not_mem_name]
  dsimp only
  rw [if_neg (by rwa [List.isEmpty_iff]), String.ofList_toList, ofName?_name, String.ofList_toList]

theorem ofName?_eq_some (name : String) (l : Lookup) (h : ofName? name = some l) : l.name = name := by
  have hfound := List.find?_some h
  exact eq_of_beq hfound

/-- A path is a field alone, or a field and the name of a lookup. -/
theorem ofPath_cases (path : String) :
    ofPath path = (path, exact) ∨
    ∃ field l, field ≠ "" ∧ path = Text.joinPath field l.name ∧ ofPath path = (field, l) := by
  rw [ofPath]
  cases hcut : Text.lastCut? path.toList with
  | none => exact .inl rfl
  | some cut =>
    obtain ⟨field, last⟩ := cut
    have hpath : path = Text.joinPath (String.ofList field) (String.ofList last) := by
      rw [← String.toList_inj, Text.toList_joinPath, String.toList_ofList, String.toList_ofList]
      exact Text.lastCut?_eq_some _ _ _ hcut
    dsimp only
    by_cases hempty : field.isEmpty = true
    · rw [if_pos hempty]
      exact .inl rfl
    · rw [if_neg hempty]
      cases hname : ofName? (String.ofList last) with
      | none => exact .inl rfl
      | some l =>
        refine .inr ⟨String.ofList field, l, ?_, ?_, rfl⟩
        · intro h
          rw [String.ofList_eq_empty_iff] at h
          exact hempty (List.isEmpty_iff.mpr h)
        · rw [ofName?_eq_some _ l hname]
          exact hpath

/-- Splitting a path undoes making it of a field and a lookup; a path that is not made so is a field by itself. -/
theorem ofPath_inverts_joinPath :
    (∀ (field : String) (l : Lookup), field ≠ "" → ofPath (Text.joinPath field l.name) = (field, l)) ∧
    ∀ path : String, (¬∃ (field : String) (l : Lookup), field ≠ "" ∧ path = Text.joinPath field l.name) →
      ofPath path = (path, exact) := by
  refine ⟨ofPath_joinPath, fun path hpath => ?_⟩
  rcases ofPath_cases path with hexact | ⟨field, l, hfield, hjoin, -⟩
  · exact hexact
  · exact absurd ⟨field, l, hfield, hjoin⟩ hpath

/-- A field that ends in underscores, and a lookup without a field. -/
theorem ofPath_inverts_joinPath_underscores :
    ofPath (Text.joinPath "_rank__by_" gte.name) = ("_rank__by_", gte) ∧ ofPath "__in" = ("__in", exact) := by
  obtain ⟨hinverts, hfields⟩ := ofPath_inverts_joinPath
  refine ⟨hinverts "_rank__by_" gte (by decide), hfields "__in" ?_⟩
  rintro ⟨field, l, hfield, hpath⟩
  rw [← String.toList_inj, Text.toList_joinPath] at hpath
  cases hchars : field.toList with
  | nil => exact hfield (String.toList_eq_nil_iff.mp hchars)
  | cons c cs =>
    -- one character of the path belongs to the field, and what is left holds no separator before a name
    rw [hchars, List.cons_append] at hpath
    have hsuffix : '_' :: '_' :: l.name.toList <:+ ['_', 'i', 'n'] := ⟨cs, (List.cons.inj hpath).2.symm⟩
    cases l <;> exact absurd hsuffix (by decide)

/-! ## Lookups and segments -/

theorem segments_name (l : Lookup) : Text.segments l.name.toList = [l.name.toList] :=
  Text.segments_of_not_mem _ l.underscore_not_mem_name

theorem segments_underscore_name (l : Lookup) : Text.segments ('_' :: l.name.toList) = ['_' :: l.name.toList] := by
  have hhead : l.name.toList.head? ≠ some '_' := fun h => l.underscore_not_mem_name (List.mem_of_mem_head? h)
  rw [Text.segments_cons '_' _ fun _ => hhead, segments_name]
  rfl

/-- The segments of a path with a lookup are those of its field and the name, unless the last one of the field ends
with an underscore; from the left, that underscore and the next one make the cut. -/
theorem segments_of_ofPath (path field : String) (l : Lookup) (h : ofPath path = (field, l)) (hne : field ≠ path) :
    ∃ front last, Text.segments field.toList = front ++ [last] ∧
      (Text.segments path.toList = Text.segments field.toList ++ [l.name.toList] ↔ last.getLast? ≠ some '_') ∧
      (last.getLast? = some '_' → Text.segments path.toList = front ++ [last.dropLast, '_' :: l.name.toList]) := by
  have hpath : path.toList = field.toList ++ '_' :: '_' :: l.name.toList := by
    rcases ofPath_cases path with hexact | ⟨f, m, -, hjoin, hf⟩
    · rw [h] at hexact
      exact absurd (congrArg Prod.fst hexact) hne
    · rw [h] at hf
      obtain ⟨rfl, rfl⟩ := Prod.mk.inj hf
      rw [← Text.toList_joinPath, ← hjoin]
  obtain ⟨front, last, hfield⟩ : ∃ front last, Text.segments field.toList = front ++ [last] :=
    ⟨_, _, (List.dropLast_concat_getLast (Text.segments_ne_nil field.toList)).symm⟩
  refine ⟨front, last, hfield, ?_⟩
  rw [hpath, hfield]
  by_cases hlast : last.getLast? = some '_'
  · obtain ⟨s, rfl⟩ := List.getLast?_eq_some_iff.mp hlast
    have hsegments := Text.segments_append_separator_of_underscore _ l.name.toList front s hfield
    rw [segments_underscore_name] at hsegments
    have hmoved : s ≠ s ++ ['_'] := fun hs => absurd (congrArg List.length hs) (by simp)
    rw [hsegments, List.dropLast_concat]
    refine ⟨iff_of_false ?_ (not_not_intro hlast), fun _ => rfl⟩
    intro heq
    rw [List.append_assoc] at heq
    exact hmoved (List.cons.inj (List.append_cancel_left heq)).1
  · have hsegments := Text.segments_append_separator _ l.name.toList front last hfield hlast
    rw [segments_name] at hsegments
    rw [hsegments, List.append_assoc]
    exact ⟨iff_of_true rfl hlast, fun h => absurd h hlast⟩

theorem segments_of_rank :
    ofPath "author__rank___gt" = ("author__rank_", gt) ∧
    Text.segments "author__rank___gt".toList ≠ Text.segments "author__rank_".toList ++ [gt.name.toList] := by
  refine ⟨by decide, fun h => ?_⟩
  obtain ⟨front, last, hfield, hiff, -⟩ :=
    segments_of_ofPath "author__rank___gt" "author__rank_" gt (by decide) (by decide)
  have hends : (Text.segments "author__rank_".toList).getLast?.bind List.getLast? = some '_' := by decide
  rw [hfield, List.getLast?_concat] at hends
  exact hiff.mp h hends

/-- The separator may be cut in two ways where three underscores meet. -/
theorem not_segments_of_ofPath :
    ¬∀ (path field : String) (l : Lookup), ofPath path = (field, l) → field ≠ path →
      Text.segments path.toList = Text.segments field.toList ++ [l.name.toList] := by
  intro h
  exact absurd (h "a___gt" "a_" .gt (by decide) (by decide)) (by decide)

end Lookup

end RecordQuery
