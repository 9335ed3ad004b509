import RecordQuery.Text.Basic

/-! Lowercase and the parts of a text. Each character is lowered by itself, except that the form of a capital sigma
depends on the text around it; so a part of a text is lowered with the whole as by itself just where its sigmas see
enough of that text. -/
namespace RecordQuery.Text
set_option autoImplicit false

/-! ## Contexts -/

/-- Whether case matters look through all of the characters. -/
def ignorable (cs : List Char) : Bool := cs.all fun c => Unicode.caseIgnorable.contains c.toNat

theorem startsCased_append (xs ys : List Char) :
    startsCased (xs ++ ys) = if ignorable xs then startsCased ys else startsCased xs := by
  induction xs with
  | nil => rfl
  | cons c cs ih =>
    rw [List.cons_append, startsCased, startsCased, ih, ignorable, ignorable, List.all_cons]
    cases Unicode.caseIgnorable.contains c.toNat with
    | true => rfl
    | false => rfl

theorem startsCased_of_ignorable (cs : List Char) (h : ignorable cs = true) : startsCased cs = false := by
  have happend := startsCased_append cs []
  rw [List.append_nil, h] at happend
  exact happend

/-- The lowercase of a part of a text between what comes before it, nearest first, and what comes after it. -/
def lowerWithin (before after : List Char) : List Char → List Char
  | [] => []
  | c :: cs =>
    (if c = 'Σ' then [lowerSigma before (cs ++ after)] else lowerChar c) ++ lowerWithin (c :: before) after cs

theorem lowerAfter_eq_lowerWithin (before cs : List Char) : lowerAfter before cs = lowerWithin before [] cs := by
  induction cs generalizing before with
  | nil => rfl
  | cons c cs ih => rw [lowerAfter, lowerWithin, List.append_nil, ih]

theorem toList_lowercase (s : String) : (lowercase s).toList = lowerWithin [] [] s.toList := by
  rw [lowercase, String.toList_ofList, lowerAfter_eq_lowerWithin]

theorem lowerWithin_append (before after xs ys : List Char) :
    lowerWithin before after (xs ++ ys) =
      lowerWithin before (ys ++ after) xs ++ lowerWithin (xs.reverse ++ before) after ys := by
  induction xs generalizing before with
  | nil => rfl
  | cons c cs ih =>
    rw [List.cons_append, lowerWithin, ih, lowerWithin, List.append_assoc, List.append_assoc, List.reverse_cons,
      List.append_assoc]
    rfl

/-! ## The form of a sigma -/

section Sigma

variable (before after : List Char)

theorem lowerSigma_append_before (b : List Char) (h : ignorable before = true → b = [] ∨ startsCased after = true) :
    lowerSigma (before ++ b) after = lowerSigma before after := by
  rw [lowerSigma, lowerSigma, startsCased_append]
  cases hbefore : ignorable before with
  | false => rfl
  | true =>
    rw [startsCased_of_ignorable before hbefore]
    rcases h hbefore with rfl | hafter
    · rfl
    · rw [hafter, Bool.not_true, Bool.and_false, Bool.and_false]

theorem lowerSigma_append_after (a : List Char) (h : ignorable after = true → a = [] ∨ startsCased before = false) :
    lowerSigma before (after ++ a) = lowerSigma before after := by
  rw [lowerSigma, lowerSigma, startsCased_append]
  cases hafter : ignorable after with
  | false => rfl
  | true =>
    rw [startsCased_of_ignorable after hafter]
    rcases h hafter with rfl | hbefore
    · rfl
    · rw [hbefore, Bool.false_and, Bool.false_and]

variable (left right : Bool)

/-- Whether what comes next before and after a sigma settles its form, where other text may stand further to the left
or to the right. -/
def sigmaSettled : Bool :=
  !(left && ignorable before && !startsCased after) && !(right && ignorable after && startsCased before)

theorem sigmaSettled_eq_true :
    sigmaSettled before after left right = true ↔
      (left = true → ignorable before = true → startsCased after = true) ∧
      (right = true → ignorable after = true → startsCased before = false) := by
  grind [sigmaSettled]

theorem sigmaSettled_eq_false :
    sigmaSettled before after left right = false ↔
      (left = true ∧ ignorable before = true ∧ startsCased after = false) ∨
      (right = true ∧ ignorable after = true ∧ startsCased before = true) := by
  grind [sigmaSettled]

theorem startsCased_append_of_true (a : List Char) (h : startsCased after = true) :
    startsCased (after ++ a) = true := by
  rw [startsCased_append]
  cases hafter : ignorable after with
  | false => exact h
  | true => exact absurd (h.symm.trans (startsCased_of_ignorable after hafter)) nofun

theorem lowerSigma_append (h : sigmaSettled before after left right = true) (b a : List Char)
    (hb : left = false → b = []) (ha : right = false → a = []) :
    lowerSigma (before ++ b) (after ++ a) = lowerSigma before after := by
  obtain ⟨hleft, hright⟩ := (sigmaSettled_eq_true before after left right).mp h
  rw [lowerSigma_append_before, lowerSigma_append_after]
  · intro hafter
    cases right with
    | false => exact .inl (ha rfl)
    | true => exact .inr (hright rfl hafter)
  · intro hbefore
    cases left with
    | false => exact .inl (hb rfl)
    | true => exact .inr (startsCased_append_of_true after a (hleft rfl hbefore))

end Sigma

/-! ## Settled parts -/

/-- Whether the forms of all sigmas of a part are settled, the first of them with the given characters before it. -/
def sigmasSettled (left right : Bool) (before : List Char) : List Char → Bool
  | [] => true
  | c :: cs => (decide (c ≠ 'Σ') || sigmaSettled before cs left right) && sigmasSettled left right (c :: before) cs

theorem sigmasSettled_whole (before cs : List Char) : sigmasSettled false false before cs = true := by
  induction cs generalizing before with
  | nil => rfl
  | cons c cs ih =>
    rw [sigmasSettled, ih, Bool.and_true]
    exact Bool.or_true _

theorem sigmasSettled_of_not_mem (left right : Bool) (before cs : List Char) (h : 'Σ' ∉ cs) :
    sigmasSettled left right before cs = true := by
  induction cs generalizing before with
  | nil => rfl
  | cons c cs ih =>
    obtain ⟨hc, hcs⟩ := List.ne_and_not_mem_of_not_mem_cons h
    rw [sigmasSettled, ih (c :: before) hcs, Bool.and_true, decide_eq_true (Ne.symm hc)]
    rfl

theorem lowerWithin_of_settled (left right : Bool) (b a : List Char) (hb : left = false → b = [])
    (ha : right = false → a = []) (before cs : List Char) (h : sigmasSettled left right before cs = true) :
    lowerWithin (before ++ b) a cs = lowerWithin before [] cs := by
  induction cs generalizing before with
  | nil => rfl
  | cons c cs ih =>
    rw [sigmasSettled, Bool.and_eq_true] at h
    obtain ⟨hhere, hrest⟩ := h
    rw [lowerWithin, lowerWithin, ← List.cons_append, ih (c :: before) hrest, List.append_nil]
    by_cases hc : c = 'Σ'
    · subst hc
      rw [if_pos rfl, if_pos rfl, lowerSigma_append before cs left right hhere b a hb ha]
    · rw [if_neg hc, if_neg hc]

theorem exists_unsettled (left right : Bool) (before cs : List Char) (h : sigmasSettled left right before cs = false) :
    ∃ u v, cs = u ++ 'Σ' :: v ∧ sigmaSettled (u.reverse ++ before) v left right = false := by
  induction cs generalizing before with
  | nil => exact absurd h nofun
  | cons c cs ih =>
    rw [sigmasSettled, Bool.and_eq_false_iff] at h
    rcases h with hhere | hrest
    · obtain ⟨hc, hsigma⟩ := Bool.or_eq_false_iff.mp hhere
      have hc : c = 'Σ' := by simpa using hc
      exact ⟨[], cs, hc ▸ rfl, hsigma⟩
    · obtain ⟨u, v, hcs, huv⟩ := ih (c :: before) hrest
      refine ⟨c :: u, v, hcs ▸ rfl, ?_⟩
      rwa [List.reverse_cons, List.append_assoc]

/-! ## Occurrences of a form -/

section Count

variable (x : Char) (b b' a a' : List Char)
  (hx : ∀ u v, lowerSigma (u ++ b') (v ++ a') = x → lowerSigma (u ++ b) (v ++ a) = x)

include hx

theorem count_lowerWithin_le (before cs : List Char) :
    (lowerWithin (before ++ b') a' cs).count x ≤ (lowerWithin (before ++ b) a cs).count x := by
  induction cs generalizing before with
  | nil => exact Nat.le_refl _
  | cons c cs ih =>
    rw [lowerWithin, lowerWithin, List.count_append, List.count_append]
    refine Nat.add_le_add ?_ (ih (c :: before))
    by_cases hc : c = 'Σ'
    · rw [if_pos hc, if_pos hc, List.count_singleton, List.count_singleton]
      grind
    · exact Nat.le_of_eq (by rw [if_neg hc, if_neg hc])

/-- A form that one sigma loses in other surroundings, and none gains, occurs less often there. -/
theorem count_lowerWithin_lt (u v : List Char) (hout : lowerSigma (u.reverse ++ b') (v ++ a') ≠ x)
    (hin : lowerSigma (u.reverse ++ b) (v ++ a) = x) :
    (lowerWithin b' a' (u ++ 'Σ' :: v)).count x < (lowerWithin b a (u ++ 'Σ' :: v)).count x := by
  have hx' : ∀ p q, lowerSigma (p ++ b') (q ++ ('Σ' :: v ++ a')) = x →
      lowerSigma (p ++ b) (q ++ ('Σ' :: v ++ a)) = x := by
    intro p q
    rw [← List.append_assoc q, ← List.append_assoc q]
    exact hx p (q ++ 'Σ' :: v)
  have hu := count_lowerWithin_le x b b' ('Σ' :: v ++ a) ('Σ' :: v ++ a') hx' [] u
  have hv := count_lowerWithin_le x b b' a a' hx ('Σ' :: u.reverse) v
  have hhere : [lowerSigma (u.reverse ++ b') (v ++ a')].count x < [lowerSigma (u.reverse ++ b) (v ++ a)].count x := by
    rw [hin, List.count_singleton_self, List.count_eq_zero_of_not_mem (by simpa using hout.symm)]
    exact Nat.one_pos
  rw [lowerWithin_append, lowerWithin_append, List.count_append, List.count_append, lowerWithin, lowerWithin,
    if_pos rfl, if_pos rfl, List.count_append, List.count_append]
  rw [List.nil_append, List.nil_append] at hu
  rw [List.cons_append, List.cons_append] at hv
  omega

end Count

/-! ## A letter beside a sigma -/

theorem startsCased_append_letter (cs : List Char) : startsCased (cs ++ ['A']) = (ignorable cs || startsCased cs) := by
  rw [startsCased_append]
  cases ignorable cs <;> rfl

theorem lowerSigma_eq_final (before after : List Char) :
    lowerSigma before after = 'ς' ↔ startsCased before = true ∧ startsCased after = false := by
  rw [lowerSigma]
  cases startsCased before <;> cases startsCased after <;> decide

theorem lowerSigma_eq_medial (before after : List Char) :
    lowerSigma before after = 'σ' ↔ (startsCased before = true → startsCased after = true) := by
  rw [lowerSigma]
  cases startsCased before <;> cases startsCased after <;> decide

/-- A letter in front of a part makes a sigma final that ends a word and has seen no letter before it. -/
theorem count_medial_lt (u v : List Char) (hu : ignorable u.reverse = true) (hv : startsCased v = false) :
    (lowerWithin ['A'] [] (u ++ 'Σ' :: v)).count 'σ' < (lowerWithin [] [] (u ++ 'Σ' :: v)).count 'σ' := by
  apply count_lowerWithin_lt
  · intro p q
    simp only [lowerSigma_eq_medial, startsCased_append_letter, List.append_nil]
    intro h hp
    exact h (by rw [hp, Bool.or_true])
  · simp only [ne_eq, lowerSigma_eq_medial, startsCased_append_letter, hu, hv, List.append_nil]
    exact fun h => absurd (h rfl) nofun
  · rw [lowerSigma_eq_medial, List.append_nil, startsCased_of_ignorable _ hu]
    exact nofun

/-- A letter behind a part takes the final form from a sigma that has seen a letter before it alone. -/
theorem count_final_lt (u v : List Char) (hu : startsCased u.reverse = true) (hv : ignorable v = true) :
    (lowerWithin [] ['A'] (u ++ 'Σ' :: v)).count 'ς' < (lowerWithin [] [] (u ++ 'Σ' :: v)).count 'ς' := by
  apply count_lowerWithin_lt
  · intro p q
    simp only [lowerSigma_eq_final, startsCased_append_letter, List.append_nil]
    rintro ⟨hp, hq⟩
    exact ⟨hp, (Bool.or_eq_false_iff.mp hq).2⟩
  · simp only [ne_eq, lowerSigma_eq_final, startsCased_append_letter, hv]
    exact nofun
  · rw [lowerSigma_eq_final, List.append_nil, List.append_nil]
    exact ⟨hu, startsCased_of_ignorable v hv⟩

/-! ## Patterns in texts -/

/-- Whether a pattern stands in a text: at its start unless more may come to the left, and at its end unless more may
come to the right. -/
def StandsIn (left right : Bool) (pattern text : List Char) : Prop :=
  ∃ b a, text = b ++ (pattern ++ a) ∧ (left = false → b = []) ∧ (right = false → a = [])

theorem standsIn_anywhere (pattern text : List Char) : StandsIn true true pattern text ↔ pattern <:+: text := by
  constructor
  · rintro ⟨b, a, rfl, -, -⟩
    exact ⟨b, a, List.append_assoc b pattern a⟩
  · rintro ⟨b, a, rfl⟩
    exact ⟨b, a, List.append_assoc b pattern a, nofun, nofun⟩

theorem standsIn_start (pattern text : List Char) : StandsIn false true pattern text ↔ pattern <+: text := by
  constructor
  · rintro ⟨b, a, rfl, hb, -⟩
    exact ⟨a, by rw [hb rfl, List.nil_append]⟩
  · rintro ⟨a, rfl⟩
    exact ⟨[], a, rfl, fun _ => rfl, nofun⟩

theorem standsIn_end (pattern text : List Char) : StandsIn true false pattern text ↔ pattern <:+ text := by
  constructor
  · rintro ⟨b, a, rfl, -, ha⟩
    exact ⟨b, by rw [ha rfl, List.append_nil]⟩
  · rintro ⟨b, rfl⟩
    exact ⟨b, [], by rw [List.append_nil], nofun, fun _ => rfl⟩

theorem standsIn_whole (pattern text : List Char) : StandsIn false false pattern text ↔ text = pattern := by
  constructor
  · rintro ⟨b, a, rfl, hb, ha⟩
    rw [hb rfl, ha rfl, List.nil_append, List.append_nil]
  · rintro rfl
    exact ⟨[], [], (List.append_nil _).symm, fun _ => rfl, fun _ => rfl⟩

theorem StandsIn.sublist {left right : Bool} {pattern text : List Char} (h : StandsIn left right pattern text) :
    pattern.Sublist text := by
  obtain ⟨b, a, rfl, -, -⟩ := h
  exact (List.sublist_append_left pattern a).trans (List.sublist_append_right b _)

/-- A part whose sigmas are settled is lowered with the whole as by itself. -/
theorem StandsIn.lower {left right : Bool} {pattern text : List Char} (h : StandsIn left right pattern text)
    (hp : sigmasSettled left right [] pattern = true) :
    StandsIn left right (lowerWithin [] [] pattern) (lowerWithin [] [] text) := by
  obtain ⟨b, a, rfl, hb, ha⟩ := h
  have hpattern := lowerWithin_of_settled left right b.reverse a (fun hl => by rw [hb hl]; rfl) ha [] pattern hp
  refine ⟨lowerWithin [] (pattern ++ a) b, lowerWithin (pattern.reverse ++ b.reverse) [] a, ?_, ?_, ?_⟩
  · rw [lowerWithin_append, lowerWithin_append, ← hpattern, List.append_nil, List.append_nil, List.append_nil,
      List.nil_append]
  · intro hl
    rw [hb hl]
    rfl
  · intro hr
    rw [ha hr]
    rfl

theorem exists_not_standsIn_lower (left right : Bool) (pattern : List Char)
    (hp : sigmasSettled left right [] pattern = false) :
    ∃ text, StandsIn left right pattern text ∧
      ¬StandsIn left right (lowerWithin [] [] pattern) (lowerWithin [] [] text) := by
  obtain ⟨u, v, hpattern, huv⟩ := exists_unsettled left right [] pattern hp
  rw [List.append_nil, sigmaSettled_eq_false] at huv
  -- beside a letter the text has fewer of a form than the pattern, so the pattern is no part of it
  rcases huv with ⟨hl, hu, hv⟩ | ⟨hr, hv, hu⟩
  · refine ⟨'A' :: pattern, ⟨['A'], [], ?_, fun h => absurd (hl.symm.trans h) nofun, fun _ => rfl⟩, fun h => ?_⟩
    · rw [List.append_nil, List.singleton_append]
    · have hlt := count_medial_lt u v hu hv
      have hle := h.sublist.count_le 'σ'
      have hlower : lowerWithin [] [] ('A' :: pattern) = 'a' :: lowerWithin ['A'] [] pattern := rfl
      rw [hlower, List.count_cons_of_ne (by decide)] at hle
      rw [← hpattern] at hlt
      omega
  · refine ⟨pattern ++ ['A'], ⟨[], ['A'], rfl, fun _ => rfl, fun h => absurd (hr.symm.trans h) nofun⟩, fun h => ?_⟩
    have hlt := count_final_lt u v hu hv
    have hle := h.sublist.count_le 'ς'
    have hlower : lowerWithin [] [] (pattern ++ ['A']) = lowerWithin [] ['A'] pattern ++ ['a'] := by
      rw [lowerWithin_append]
      rfl
    have hletter : ['a'].count 'ς' = 0 := rfl
    rw [hlower, List.count_append, hletter] at hle
    rw [← hpattern] at hlt
    omega

end RecordQuery.Text
