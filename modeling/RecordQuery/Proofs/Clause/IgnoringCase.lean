import RecordQuery.Proofs.Clause.Expansion
import RecordQuery.Proofs.Text.Lowercase
import RecordQuery.Proofs.Value.Canonical

/-! Lookups without regard to case beside those with it. A pattern is put in lowercase by itself and a field as a
whole, so all that is found with regard to case is found without it only where the sigmas of the pattern are settled
within it. -/
namespace RecordQuery
set_option autoImplicit false

/-! ## Lookups for text -/

theorem occursIn_eq_true (needle hay : List Char) : occursIn needle hay = true ↔ needle <:+: hay := by
  induction hay with
  | nil => rw [occursIn, List.isEmpty_iff, List.infix_nil]
  | cons c cs ih => rw [occursIn, Bool.or_eq_true, ih, List.isPrefixOf_iff_prefix, List.infix_cons_iff]

namespace Lookup

/-- Whether the lookup looks for a text, as the whole of a field or as a part of it. -/
def findsText : Lookup → Bool
  | exact | iexact | contains | icontains | startsWith | istartsWith | endsWith | iendsWith => true
  | _ => false

/-- Whether a field may have more text to the left of the one that is looked for. -/
def opensLeft : Lookup → Bool
  | contains | icontains | endsWith | iendsWith => true
  | _ => false

def opensRight : Lookup → Bool
  | contains | icontains | startsWith | istartsWith => true
  | _ => false

/-- The lookup that finds the same without regard to case. -/
def ignoringCase? : Lookup → Option Lookup
  | exact => some iexact
  | contains => some icontains
  | startsWith => some istartsWith
  | endsWith => some iendsWith
  | _ => none

/-- Text as the lookup compares it. -/
def folded (l : Lookup) (s : String) : List Char := (if l.ignoresCase then Text.lowercase s else s).toList

theorem folded_of_ignoresCase (l : Lookup) (hl : l.ignoresCase = true) (s : String) :
    l.folded s = Text.lowerWithin [] [] s.toList := by
  rw [folded, hl, if_pos rfl, Text.toList_lowercase]

theorem folded_of_regardsCase (l : Lookup) (hl : l.ignoresCase = false) (s : String) : l.folded s = s.toList := by
  rw [folded, hl, if_neg Bool.false_ne_true]

theorem literalOperand_string (l : Lookup) (hl : l.findsText = true) (s : String) :
    l.literalOperand (.string s) = .ok (.string (String.ofList (l.folded s))) := by
  rw [folded, String.ofList_toList]
  cases l with
  | exact | iexact | contains | icontains | startsWith | istartsWith | endsWith | iendsWith => rfl
  | _ => exact absurd hl nofun

theorem matchString_eq_true (l : Lookup) (hl : l.findsText = true) (hstrings : l.isForStrings = true)
    (field pattern : String) :
    l.matchString field pattern = true ↔
      Text.StandsIn l.opensLeft l.opensRight pattern.toList (l.folded field) := by
  cases l with
  | iexact => exact decide_eq_true_iff.trans (Text.standsIn_whole _ _).symm
  | contains | icontains => exact (occursIn_eq_true _ _).trans (Text.standsIn_anywhere _ _).symm
  | startsWith | istartsWith => exact List.isPrefixOf_iff_prefix.trans (Text.standsIn_start _ _).symm
  | endsWith | iendsWith => exact List.isSuffixOf_iff_suffix.trans (Text.standsIn_end _ _).symm
  | exact => exact absurd hstrings nofun
  | _ => exact absurd hl nofun

section Matching

variable (read : String → Value) (field : Value) (s : String)

theorem matchValue_isForStrings (l : Lookup) (hl : l.isForStrings = true) :
    l.matchValue read field (.string s) = field.string?.any (l.matchString · s) := by
  change (!field.isMissing && if l.isForStrings then _ else _) = _
  rw [hl, if_pos rfl]
  cases field <;> rfl

theorem matchValue_exact_string :
    exact.matchValue read field (.string s) = field.string?.any fun t => decide (t.toList = s.toList) := by
  cases field with
  | string t =>
    -- equality is read off the order of strings, which is that of their characters
    change (compare t s == .eq) = decide (t.toList = s.toList)
    rw [Bool.eq_iff_iff, beq_iff_eq, Std.compare_eq_iff_eq, decide_eq_true_iff, String.toList_inj]
  | _ => rfl

theorem matchValue_string (l : Lookup) (hl : l.findsText = true) :
    l.matchValue read field (.string s) = true ↔
      ∃ t, field.string? = some t ∧ Text.StandsIn l.opensLeft l.opensRight s.toList (l.folded t) := by
  cases hstrings : l.isForStrings with
  | true =>
    rw [matchValue_isForStrings read field s l hstrings, Option.any_eq_true]
    simp only [l.matchString_eq_true hl hstrings]
  | false =>
    cases l with
    | exact =>
      rw [matchValue_exact_string, Option.any_eq_true]
      refine exists_congr fun t => and_congr_right fun _ => ?_
      exact decide_eq_true_iff.trans (Text.standsIn_whole _ _).symm
    | iexact | contains | icontains | startsWith | istartsWith | endsWith | iendsWith => exact absurd hstrings nofun
    | _ => exact absurd hl nofun

end Matching

end Lookup

/-! ## Conditions -/

section Conditions

variable (field : String) (hfield : field ≠ "") (pattern : String)

include hfield in
/-- A condition that looks for a text holds where the text stands, as the lookup compares it, in the field. -/
theorem conditionsHold_text (l : Lookup) (hl : l.findsText = true) {R : Type} [Record R] (r : R) :
    conditionsHold [lookupCondition field l (.string pattern)] r = true ↔
      ∃ t, (Record.value r field).string? = some t ∧
        Text.StandsIn l.opensLeft l.opensRight (l.folded pattern) (l.folded t) := by
  rw [conditionsHold_lookupCondition field hfield l _ _ (l.literalOperand_string hl pattern),
    Lookup.matchValue_string _ _ _ l hl, String.toList_ofList]

end Conditions

/-- A leaf under keys that lead to it. -/
def Json.nested (leaf : Json) : List (List Char) → Json
  | [] => leaf
  | key :: keys => .object [(String.ofList key, nested leaf keys)]

theorem Json.follow_nested (leaf : Json) (keys : List (List Char)) : (nested leaf keys).follow keys = some leaf := by
  induction keys with
  | nil => rfl
  | cons key keys ih =>
    have hget : (nested leaf (key :: keys)).get? (String.ofList key) = some (nested leaf keys) := if_pos rfl
    rw [follow, hget]
    exact ih

/-! ## Case -/

theorem Lookup.ignoringCase?_eq_some (l m : Lookup) (h : l.ignoringCase? = some m) :
    (l.findsText = true ∧ l.ignoresCase = false) ∧ (m.findsText = true ∧ m.ignoresCase = true) ∧
      m.opensLeft = l.opensLeft ∧ m.opensRight = l.opensRight := by
  cases l with
  | exact | contains | startsWith | endsWith =>
    rw [← Option.some.inj h]
    decide
  | _ => exact absurd h nofun

section Case

variable (field : String) (hfield : field ≠ "") (pattern : String) (l m : Lookup) (hlm : l.ignoringCase? = some m)

include hfield hlm

theorem conditionsHold_of_settled (h : Text.sigmasSettled l.opensLeft l.opensRight [] pattern.toList = true)
    {R : Type} [Record R] (r : R) (hr : conditionsHold [lookupCondition field l (.string pattern)] r = true) :
    conditionsHold [lookupCondition field m (.string pattern)] r = true := by
  obtain ⟨⟨hl, hlcase⟩, ⟨hm, hmcase⟩, hleft, hright⟩ := l.ignoringCase?_eq_some m hlm
  obtain ⟨t, ht, hstands⟩ := (conditionsHold_text field hfield pattern l hl r).mp hr
  rw [l.folded_of_regardsCase hlcase, l.folded_of_regardsCase hlcase] at hstands
  refine (conditionsHold_text field hfield pattern m hm r).mpr ⟨t, ht, ?_⟩
  rw [m.folded_of_ignoresCase hmcase, m.folded_of_ignoresCase hmcase, hleft, hright]
  exact hstands.lower h

theorem exists_lost_of_unsettled (h : Text.sigmasSettled l.opensLeft l.opensRight [] pattern.toList = false) :
    ∃ record : Json, conditionsHold [lookupCondition field l (.string pattern)] record = true ∧
      conditionsHold [lookupCondition field m (.string pattern)] record = false := by
  obtain ⟨⟨hl, hlcase⟩, ⟨hm, hmcase⟩, hleft, hright⟩ := l.ignoringCase?_eq_some m hlm
  obtain ⟨text, hstands, hnot⟩ := Text.exists_not_standsIn_lower _ _ _ h
  let record := Json.nested (.string (String.ofList text)) (Text.segments field.toList)
  have hread : (Record.value record field).string? = some (String.ofList text) := by
    rw [Record.value_json, Json.follow_nested]
    rfl
  refine ⟨record, (conditionsHold_text field hfield pattern l hl record).mpr ⟨_, hread, ?_⟩, ?_⟩
  · rwa [l.folded_of_regardsCase hlcase, l.folded_of_regardsCase hlcase, String.toList_ofList]
  · rw [Bool.eq_false_iff, ne_eq, conditionsHold_text field hfield pattern m hm record, hread, hleft, hright]
    rintro ⟨t, ht, hlower⟩
    rw [← Option.some.inj ht, m.folded_of_ignoresCase hmcase, m.folded_of_ignoresCase hmcase,
      String.toList_ofList] at hlower
    exact hnot hlower

/-- A lookup without regard to case holds wherever the one with it does if the sigmas of the pattern are settled
within it, and only then. They are if it has no capital one, or if it is compared with whole fields. -/
theorem conditionsHold_ignoringCase :
    (Text.sigmasSettled l.opensLeft l.opensRight [] pattern.toList = true →
      ∀ (R : Type) [Record R] (r : R), conditionsHold [lookupCondition field l (.string pattern)] r = true →
        conditionsHold [lookupCondition field m (.string pattern)] r = true) ∧
    (Text.sigmasSettled l.opensLeft l.opensRight [] pattern.toList = false →
      ∃ record : Json, conditionsHold [lookupCondition field l (.string pattern)] record = true ∧
        conditionsHold [lookupCondition field m (.string pattern)] record = false) ∧
    ('Σ' ∉ pattern.toList ∨ l = .exact → Text.sigmasSettled l.opensLeft l.opensRight [] pattern.toList = true) := by
  refine ⟨fun h _ _ r hr => conditionsHold_of_settled field hfield pattern l m hlm h r hr,
    exists_lost_of_unsettled field hfield pattern l m hlm, ?_⟩
  rintro (hsigma | rfl)
  · exact Text.sigmasSettled_of_not_mem _ _ [] _ hsigma
  · exact Text.sigmasSettled_whole [] _

end Case

theorem conditionsHold_ignoringCase_sigma :
    ∃ record : Json, conditionsHold [lookupCondition "word" .endsWith (.string "Σ")] record = true ∧
      conditionsHold [lookupCondition "word" .iendsWith (.string "Σ")] record = false :=
  (conditionsHold_ignoringCase "word" (by decide) "Σ" .endsWith .iendsWith rfl).2.1 (by decide +kernel)

/-- A sigma that is the last letter of the pattern, but not of the field. -/
theorem conditionsHold_icontains_sigma :
    conditionsHold [lookupCondition "word" .contains (.string "ΑΣ")] (Json.object [("word", .string "ΑΣΑ")]) = true ∧
    conditionsHold [lookupCondition "word" .icontains (.string "ΑΣ")]
      (Json.object [("word", .string "ΑΣΑ")]) = false := by
  decide +kernel

end RecordQuery
