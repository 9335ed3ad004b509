import Mathlib.Data.List.Forall2
import RecordQuery.Proofs.Json.NumberText
import RecordQuery.Proofs.Json.Readable

/-! Texts that are read as a value: those of scalars, and those of containers, put together from the texts of their
parts with blanks before them. -/
namespace RecordQuery.Json
set_option autoImplicit false

/-! ## Blanks -/

theorem skipSpace_blank {d : Char} (hd : isSpace d = true) (ds : List Char) (used : Nat) :
    skipSpace ⟨d :: ds, used⟩ = skipSpace ⟨ds, used + 1⟩ := by
  simp only [skipSpace, List.takeWhile_cons_of_pos hd, List.length_cons, List.drop_succ_cons]
  rw [Nat.add_assoc, Nat.add_comm 1]

theorem skipSpace_append {gap : List Char} (hgap : ∀ c ∈ gap, isSpace c = true) (rest : List Char) (used : Nat) :
    skipSpace ⟨gap ++ rest, used⟩ = skipSpace ⟨rest, used + gap.length⟩ := by
  induction gap generalizing used with
  | nil => rfl
  | cons d ds ih =>
    obtain ⟨hd, hds⟩ := List.forall_mem_cons.mp hgap
    rw [List.cons_append, skipSpace_blank hd, ih hds, List.length_cons, Nat.add_assoc, Nat.add_comm 1]

theorem skipSpace_gap {gap : List Char} (hgap : ∀ c ∈ gap, isSpace c = true) {d : Char} (hd : isSpace d = false)
    (rest : List Char) (used : Nat) : skipSpace ⟨gap ++ d :: rest, used⟩ = ⟨d :: rest, used + gap.length⟩ := by
  rw [skipSpace_append hgap, skipSpace_cons hd]

theorem skipSpace_stops (rest : List Char) (used : Nat) :
    (∃ used', skipSpace ⟨rest, used⟩ = ⟨[], used'⟩) ∨
      ∃ d ds used', isSpace d = false ∧ skipSpace ⟨rest, used⟩ = ⟨d :: ds, used'⟩ := by
  induction rest generalizing used with
  | nil => exact .inl ⟨used, rfl⟩
  | cons d ds ih =>
    cases hd : isSpace d with
    | true =>
      rw [skipSpace_blank hd]
      exact ih (used + 1)
    | false => exact .inr ⟨d, ds, used, hd, skipSpace_cons hd ds used⟩

theorem skipSpace_skipSpace (c : Cursor) : skipSpace (skipSpace c) = skipSpace c := by
  rcases skipSpace_stops c.rest c.used with ⟨used, h⟩ | ⟨d, ds, used, hd, h⟩
  · rw [h]
    rfl
  · rw [h, skipSpace_cons hd]

theorem readValue_skipSpace (depth : Nat) (c : Cursor) : readValue depth (skipSpace c) = readValue depth c := by
  rw [readValue.eq_def, readValue.eq_def depth c]
  dsimp only
  rw [skipSpace_skipSpace]

/-! ## Strings -/

theorem readChars_plain {c : Char} (hquote : c ≠ '"') (hslash : c ≠ '\\') (hcontrol : ¬c.toNat < 0x20)
    (rest : List Char) (used : Nat) (done : List Char) :
    readChars (c :: rest) used done = readChars rest (used + c.utf8Size) (c :: done) := by
  rw [readChars.eq_def]
  split
  · rename_i h
    exact absurd h nofun
  · rename_i h
    exact absurd (List.cons.inj h).1 hquote
  · rename_i h
    exact absurd (List.cons.inj h).1 hslash
  · rename_i h
    exact absurd (List.cons.inj h).1 hslash
  · rename_i h
    exact absurd (List.cons.inj h).1 hslash
  · rename_i h
    exact absurd (List.cons.inj h).1 hslash
  · rename_i h
    obtain ⟨rfl, rfl⟩ := List.cons.inj h
    rw [if_neg hcontrol]

theorem hexQuad?_hexDigit : ∀ n < 0x20, hexQuad? '0' '0' (hexDigit (n / 16)) (hexDigit (n % 16)) = some n := by
  decide

theorem readChars_control {n : Nat} (hn : n < 0x20) (rest : List Char) (used : Nat) (done : List Char) :
    readChars ('\\' :: 'u' :: '0' :: '0' :: hexDigit (n / 16) :: hexDigit (n % 16) :: rest) used done =
      readChars rest (used + 6) (Char.ofNat n :: done) := by
  have hlow : isLowSurrogate n = false := by
    rw [isLowSurrogate, Bool.and_eq_false_iff, decide_eq_false_iff_not]
    exact .inl (by omega)
  have hhigh : isHighSurrogate n = false := by
    rw [isHighSurrogate, Bool.and_eq_false_iff, decide_eq_false_iff_not]
    exact .inl (by omega)
  rw [readChars, hexQuad?_hexDigit n hn]
  simp only [hlow, hhigh, Bool.false_eq_true, if_false, Bool.not_false, if_true]

theorem readChars_escapeChar (c : Char) (rest : List Char) (used : Nat) (done : List Char) :
    ∃ used', readChars (escapeChar c ++ rest) used done = readChars rest used' (c :: done) := by
  have hself := Char.ofNat_toNat c
  rw [escapeChar]
  split
  -- all but the last case are escapes of one letter, for characters known by their numbers
  case h_8 n hquote hslash _ _ _ _ _ =>
    split
    · rename_i hn
      refine ⟨used + 6, ?_⟩
      have hcontrol := readChars_control hn rest used done
      rw [hself] at hcontrol
      exact hcontrol
    · rename_i hn
      refine ⟨used + c.utf8Size, readChars_plain ?_ ?_ hn rest used done⟩
      · rintro rfl
        exact hquote rfl
      · rintro rfl
        exact hslash rfl
  all_goals
    rename_i h
    rw [h] at hself
    rw [← hself]
    exact ⟨_, rfl⟩

theorem readChars_escaped (cs rest : List Char) (used : Nat) (done : List Char) :
    ∃ used', readChars (cs.flatMap escapeChar ++ '"' :: rest) used done =
      .ok (String.ofList (done.reverse ++ cs), ⟨rest, used'⟩) := by
  induction cs generalizing used done with
  | nil =>
    refine ⟨used + 1, ?_⟩
    rw [List.append_nil]
    rfl
  | cons c cs ih =>
    obtain ⟨used₁, h₁⟩ := readChars_escapeChar c (cs.flatMap escapeChar ++ '"' :: rest) used done
    obtain ⟨used₂, h₂⟩ := ih used₁ (c :: done)
    refine ⟨used₂, ?_⟩
    rw [List.flatMap_cons, List.append_assoc, h₁, h₂, List.reverse_cons, List.append_assoc, List.singleton_append]

theorem readString_takes (s : String) (rest : List Char) :
    Takes readString (s.toList.flatMap escapeChar ++ ['"']) s rest := by
  intro used
  obtain ⟨used', h⟩ := readChars_escaped s.toList rest used []
  refine ⟨used', ?_⟩
  rw [List.append_assoc, List.singleton_append, readString, h, List.reverse_nil, List.nil_append, String.ofList_toList]

theorem toList_renderString (s : String) :
    (renderString s).toList = '"' :: (s.toList.flatMap escapeChar ++ ['"']) := by
  rw [renderString, String.toList_ofList, List.cons_append]

/-! ## Texts of values -/

/-- A text is read as a value wherever it does not end within a number. -/
def Written (depth : Nat) (text : List Char) (value : Json) : Prop :=
  ∀ rest, EndsNumber rest → Takes (readValue depth) text value rest

section Values

variable {depth : Nat} {text gap rest : List Char} {value : Json} {c : Cursor}

theorem Written.append (h : Written depth text value) (hgap : ∀ c ∈ gap, isSpace c = true) :
    Written depth (gap ++ text) value := by
  intro rest hrest used
  obtain ⟨used', h⟩ := h rest hrest (used + gap.length)
  refine ⟨used', ?_⟩
  rw [← readValue_skipSpace, List.append_assoc, skipSpace_append hgap, readValue_skipSpace, h]

end Values

/-! ## Commas -/

section Lists

variable {depth fuel used : Nat} {done items : List Json} {texts : List (List Char)} {gap rest : List Char}
  {value : Json} {c next : Cursor}

end Lists

/-! ## Objects -/

section Objects

variable {depth fuel used : Nat} {key : String} {done members : List (String × Json)} {texts : List (List Char)}
  {gap rest : List Char} {value : Json} {c next : Cursor}

/-- A text writes a member of an object. -/
inductive WrittenMember (depth : Nat) : List Char → String × Json → Prop where
  | mk {gap text : List Char} (key : String) {value : Json} (hgap : ∀ c ∈ gap, isSpace c = true)
    (htext : Written depth text value) :
    WrittenMember depth (gap ++ ((renderString key).toList ++ ':' :: text)) (key, value)

theorem readMember_takes (key : String) {text : List Char} (htext : Takes (readValue depth) text value rest)
    (used : Nat) :
    ∃ used', readMember (readValue depth) ⟨(renderString key).toList ++ ':' :: (text ++ rest), used⟩ =
      .ok ((key, value), ⟨rest, used'⟩) := by
  obtain ⟨used₁, h₁⟩ := readString_takes key (':' :: (text ++ rest)) (used + 1)
  obtain ⟨used₂, h₂⟩ := htext (used₁ + ':'.utf8Size)
  refine ⟨used₂, ?_⟩
  rw [toList_renderString, List.cons_append, readMember, List.tail_cons, h₁, ok_bind]
  dsimp only
  rw [skipSpace_cons rfl]
  change (readValue depth ⟨text ++ rest, used₁ + ':'.utf8Size⟩ >>= fun x => Except.ok ((key, x.1), x.2)) = _
  rw [h₂]
  rfl

/-- The text of a member is read behind its blanks. -/
theorem WrittenMember.read {text : List Char} {m : String × Json} (h : WrittenMember depth text m)
    (hrest : EndsNumber rest) (used : Nat) :
    ∃ ds used' used'', skipSpace ⟨text ++ rest, used⟩ = ⟨'"' :: ds, used'⟩ ∧
      readMember (readValue depth) ⟨'"' :: ds, used'⟩ = .ok (m, ⟨rest, used''⟩) := by
  cases h with
  | @mk gap text key value hgap htext =>
    obtain ⟨used'', h⟩ := readMember_takes key (htext rest hrest) (used + gap.length)
    rw [toList_renderString, List.cons_append] at h ⊢
    refine ⟨_, used + gap.length, used'', ?_, h⟩
    rw [List.append_assoc, List.cons_append, skipSpace_gap hgap rfl]
    simp only [List.append_assoc, List.cons_append]

end Objects

end RecordQuery.Json
