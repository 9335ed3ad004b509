import RecordQuery.Proofs.QueryTree.Failure

/-! Rows that trees select. Whatever the shape of a tree, it keeps or drops each row by the record of that row
alone, so a disjunction selects what its parts select one by one, in any order and any number of times, and a
filter and the exclusion of the same conditions part the rows between them. -/
namespace RecordQuery.QueryTree
set_option autoImplicit false

variable {R : Type} [Record R]

/-! ## Rows after a tree -/

theorem increasing_rows (t : QueryTree) (s s' : RecordSet R) (hs : s.SoundRows) (h : t.apply s = .ok s') :
    s'.rows.Pairwise (· < ·) := by
  rw [apply_effect t s s' hs h]
  exact (Effect.soundRows_on t.effect s hs).increasing

theorem mem_rows (t : QueryTree) (s s' : RecordSet R) (hs : s.SoundRows) (h : t.apply s = .ok s') (i : Nat) :
    i ∈ s'.rows ↔ i ∈ s.rows ∧ ∃ r, s.source.records[i]? = some r ∧ t.selects r = true := by
  rw [apply_effect t s s' hs h]
  exact RecordSet.mem_keep s t.selects i

/-! ## Disjunctions -/

theorem anyOf_succeeds (ts : List QueryTree) (s : RecordSet R) :
    (∃ s', (anyOf ts).apply s = .ok s') ↔ ∀ t ∈ ts, ∃ b, t.apply s = .ok b := by
  simp only [apply_succeeds]
  rw [check, checkEach_eq_ok]

theorem mem_rows_anyOf (ts : List QueryTree) (s s' : RecordSet R) (hs : s.SoundRows)
    (h : (anyOf ts).apply s = .ok s') (i : Nat) :
    i ∈ s'.rows ↔ ∃ t ∈ ts, ∃ b, t.apply s = .ok b ∧ i ∈ b.rows := by
  have hbranches := (anyOf_succeeds ts s).mp ⟨s', h⟩
  rw [mem_rows (anyOf ts) s s' hs h]
  simp only [selects, someSelects_eq_any, List.any_eq_true]
  constructor
  · rintro ⟨hi, r, hr, t, ht, hsel⟩
    obtain ⟨b, hb⟩ := hbranches t ht
    exact ⟨t, ht, b, hb, (mem_rows t s b hs hb i).mpr ⟨hi, r, hr, hsel⟩⟩
  · rintro ⟨t, ht, b, hb, hi⟩
    obtain ⟨hi, r, hr, hsel⟩ := (mem_rows t s b hs hb i).mp hi
    exact ⟨hi, r, hr, t, ht, hsel⟩

/-- A disjunction does not depend on the order of its parts, nor on how often each is repeated. -/
theorem rows_anyOf_congr (ts us : List QueryTree) (s s' : RecordSet R) (hs : s.SoundRows)
    (hmem : ∀ t, t ∈ ts ↔ t ∈ us) (h : (anyOf ts).apply s = .ok s') :
    ∃ s'', (anyOf us).apply s = .ok s'' ∧ s''.rows = s'.rows := by
  have hbranches := (anyOf_succeeds ts s).mp ⟨s', h⟩
  obtain ⟨s'', h'⟩ := (anyOf_succeeds us s).mpr fun t ht => hbranches t ((hmem t).mpr ht)
  refine ⟨s'', h', (increasing_rows _ s s'' hs h').eq_of_mem_iff (increasing_rows _ s s' hs h) fun i => ?_⟩
  rw [mem_rows_anyOf us s s'' hs h', mem_rows_anyOf ts s s' hs h]
  simp only [hmem]

/-! ## Filters and exclusions -/

/-- Where a filter succeeds, so does the exclusion of the same conditions, and they part the rows. -/
theorem rows_filter_exclude (form : ConditionForm) (conditions : List Condition) (s s' : RecordSet R)
    (hs : s.SoundRows) (h : (filter form conditions).apply s = .ok s') :
    ∃ s'', (exclude form conditions).apply s = .ok s'' ∧
      ∀ i, (i ∈ s.rows ↔ i ∈ s'.rows ∨ i ∈ s''.rows) ∧ ¬(i ∈ s'.rows ∧ i ∈ s''.rows) := by
  have hcheck : (filter form conditions).check R = .ok () := (apply_succeeds _ s).mp ⟨s', h⟩
  rw [check] at hcheck
  obtain ⟨s'', h'⟩ := (apply_succeeds (exclude form conditions) s).mpr (by rw [check, hcheck])
  refine ⟨s'', h', fun i => ?_⟩
  rw [mem_rows _ s s' hs h, mem_rows _ s s'' hs h']
  simp only [selects]
  constructor
  · constructor
    · intro hi
      have hlt := hs.bounded i hi
      have hr := List.getElem?_eq_getElem hlt
      cases hc : conditionsHold conditions s.source.records[i] with
      | true => exact .inl ⟨hi, _, hr, hc⟩
      | false => exact .inr ⟨hi, _, hr, by rw [hc]; rfl⟩
    · rintro (⟨hi, _⟩ | ⟨hi, _⟩)
      · exact hi
      · exact hi
  · rintro ⟨⟨_, r, hr, hc⟩, ⟨_, r', hr', hc'⟩⟩
    obtain rfl : r = r' := Option.some.inj (hr.symm.trans hr')
    rw [hc] at hc'
    exact absurd hc' Bool.false_ne_true

/-! ## Selection by record -/

/-- Applied to a reachable set, a tree selects among its rows those whose records the tree selects; and what
follows for disjunctions, and for a filter beside an exclusion. -/
theorem selection_by_record {source : Source R} {q : RecordSet R} (hq : q.Reachable source) :
    (∀ (t : QueryTree) (q' : RecordSet R), t.apply q = .ok q' →
      q'.rows.Pairwise (· < ·) ∧
      ∀ i, i ∈ q'.rows ↔ i ∈ q.rows ∧ ∃ r, source.records[i]? = some r ∧ t.selects r = true) ∧
    (∀ (ts : List QueryTree) (q' : RecordSet R), (anyOf ts).apply q = .ok q' →
      ∀ i, i ∈ q'.rows ↔ ∃ t ∈ ts, ∃ b, t.apply q = .ok b ∧ i ∈ b.rows) ∧
    (∀ (ts us : List QueryTree) (q' : RecordSet R), (∀ t, t ∈ ts ↔ t ∈ us) →
      (anyOf ts).apply q = .ok q' → ∃ q'', (anyOf us).apply q = .ok q'' ∧ q''.rows = q'.rows) ∧
    ∀ (form : ConditionForm) (conditions : List Condition) (q' : RecordSet R),
      (filter form conditions).apply q = .ok q' →
      ∃ q'', (exclude form conditions).apply q = .ok q'' ∧
        ∀ i, (i ∈ q.rows ↔ i ∈ q'.rows ∨ i ∈ q''.rows) ∧ ¬(i ∈ q'.rows ∧ i ∈ q''.rows) := by
  obtain ⟨rfl, hs, _⟩ := hq.sound
  refine ⟨fun t q' h => ⟨increasing_rows t q q' hs h, mem_rows t q q' hs h⟩, fun ts q' h => ?_,
    fun ts us q' hmem h => ?_, fun form conditions q' h => ?_⟩
  · exact mem_rows_anyOf ts q q' hs h
  · exact rows_anyOf_congr ts us q q' hs hmem h
  · exact rows_filter_exclude form conditions q q' hs h

def overFiveVotes : List Condition := [("votes__gt", .literal (.number (.int 5)))]

def quiet : QueryTree := exclude .plain overFiveVotes

def distinctAda : QueryTree :=
  allOf [filter .plain [("title__startswith", .literal (.string "Ad"))], distinct]

theorem selection_among_popularPosts :
    Post.popularPosts.Reachable Post.posts ∧
    (∀ i, i ∈ [0, 1] ↔ i ∈ Post.popularPosts.rows ∧
      ∃ r, Post.posts.records[i]? = some r ∧ (anyOf [quiet, distinctAda]).selects r = true) ∧
    (∀ i, i ∈ [0, 1] ↔
      ∃ t ∈ [quiet, distinctAda], ∃ b, t.apply Post.popularPosts = .ok b ∧ i ∈ b.rows) ∧
    (∃ q'', (anyOf [distinctAda, quiet, distinctAda]).apply Post.popularPosts = .ok q'' ∧ q''.rows = [0, 1]) ∧
    ∃ q'', quiet.apply Post.popularPosts = .ok q'' ∧
      ∀ i, (i ∈ Post.popularPosts.rows ↔ i ∈ [1] ∨ i ∈ q''.rows) ∧ ¬(i ∈ [1] ∧ i ∈ q''.rows) := by
  have hany : (anyOf [quiet, distinctAda]).apply Post.popularPosts =
      .ok { Post.popularPosts with distinct := true } := by
    rw [apply_eq _ _ Post.popularPosts_reachable.sound.rows]
    rfl
  have hover : (filter .plain overFiveVotes).apply Post.popularPosts =
      .ok { Post.popularPosts with rows := [1] } := rfl
  have hmem : ∀ t, t ∈ [quiet, distinctAda] ↔ t ∈ [distinctAda, quiet, distinctAda] := by
    intro t
    simp only [List.mem_cons, List.not_mem_nil, or_false]
    tauto
  obtain ⟨hrows, hunion, hcongr, hpart⟩ := selection_by_record Post.popularPosts_reachable
  exact ⟨Post.popularPosts_reachable, (hrows _ _ hany).2, hunion _ _ hany, hcongr _ _ _ hmem hany, hpart _ _ _ hover⟩

end RecordQuery.QueryTree
