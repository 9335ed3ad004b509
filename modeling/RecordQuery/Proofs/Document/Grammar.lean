import RecordQuery.Proofs.Document.Fields

/-! The grammar of query documents, and the trees that they write. An entry of a composite that is no document of the
grammar writes nothing. Decoding accepts the documents of the grammar and no others, and makes of each the tree that
it writes. -/
namespace RecordQuery
set_option autoImplicit false

/-- The documents of the grammar. -/
def Accepted (s : Settings) : Json → Prop
  | .object fields => ∃ cls, Names s fields cls ∧ Complete s fields cls
  | _ => False

/-! ## What documents write -/

mutual

/-- A document writes a tree. -/
inductive Writes (s : Settings) : Json → QueryTree → Prop where
  | identity {fields : List (String × Json)} (h : Names s fields .identity) : Writes s (.object fields) .identity
  | all {fields : List (String × Json)} (h : Names s fields .all) : Writes s (.object fields) .all
  | distinct {fields : List (String × Json)} (h : Names s fields .distinct) : Writes s (.object fields) .distinct
  | filter {fields : List (String × Json)} {form : ConditionForm} {conditions : List Condition}
      (h : Names s fields (.filter form)) (hconditions : ConditionsOf s fields form conditions) :
      Writes s (.object fields) (.filter form conditions)
  | exclude {fields : List (String × Json)} {form : ConditionForm} {conditions : List Condition}
      (h : Names s fields (.exclude form)) (hconditions : ConditionsOf s fields form conditions) :
      Writes s (.object fields) (.exclude form conditions)
  | orderBy {fields : List (String × Json)} {entries : List String} (h : Names s fields .orderBy)
      (hentries : Json.member? "_order_by" fields = some (.array (entries.map Json.string))) :
      Writes s (.object fields) (.orderBy entries)
  | allOf {fields : List (String × Json)} {entries : List Json} {trees : List QueryTree}
      (h : Names s fields .allOf) (hentries : Json.member? "_sub_queries" fields = some (.array entries))
      (htrees : WritesEach s entries trees) : Writes s (.object fields) (.allOf trees)
  | anyOf {fields : List (String × Json)} {entries : List Json} {trees : List QueryTree}
      (h : Names s fields .anyOf) (hentries : Json.member? "_sub_queries" fields = some (.array entries))
      (htrees : WritesEach s entries trees) : Writes s (.object fields) (.anyOf trees)

/-- Entries write trees, each document of the grammar one and in order. -/
inductive WritesEach (s : Settings) : List Json → List QueryTree → Prop where
  | nil : WritesEach s [] []
  | kept {entry : Json} {tree : QueryTree} {entries : List Json} {trees : List QueryTree}
      (h : Writes s entry tree) (htrees : WritesEach s entries trees) :
      WritesEach s (entry :: entries) (tree :: trees)
  | leftOut {entry : Json} {entries : List Json} {trees : List QueryTree}
      (h : ¬Accepted s entry) (htrees : WritesEach s entries trees) : WritesEach s (entry :: entries) trees

end

/-! ## Decoding -/

theorem tryDecode_succeeds (s : Settings) (document : Json) :
    (∃ tree, tryDecode s document = .ok tree) ↔ Accepted s document := by
  simp only [tryDecode_eq_ok]
  cases document with
  | object fields =>
    simp only [decodeTree_eq_ok]
    constructor
    · rintro ⟨tree, dropped, cls, hn, hb⟩
      exact ⟨cls, hn, (complete_iff s cls fields).mpr ⟨(tree, dropped), hb⟩⟩
    · rintro ⟨cls, hn, hc⟩
      obtain ⟨⟨tree, dropped⟩, hb⟩ := (complete_iff s cls fields).mp hc
      exact ⟨tree, dropped, cls, hn, hb⟩
  | null | bool _ | number _ | string _ | array _ => simp [decodeTree, Accepted]

theorem writesEach_iff (s : Settings) (entries : List Json)
    (h : ∀ entry ∈ entries, ∀ tree, Writes s entry tree ↔ tryDecode s entry = .ok tree) (trees : List QueryTree) :
    WritesEach s entries trees ↔ (entries.filterMap fun entry => decode s (some entry)) = trees := by
  induction entries generalizing trees with
  | nil =>
    constructor
    · intro hw
      cases hw
      rfl
    · rintro rfl
      exact .nil
  | cons entry entries ih =>
    obtain ⟨hentry, hentries⟩ := List.forall_mem_cons.mp h
    rw [List.filterMap_cons]
    -- an entry is left out just where it is no document of the grammar, which is where it does not decode
    cases hd : tryDecode s entry with
    | ok tree =>
      have haccepted : Accepted s entry := (tryDecode_succeeds s entry).mp ⟨tree, hd⟩
      rw [decode_of_ok s entry tree hd]
      constructor
      · intro hw
        cases hw with
        | kept ht hw =>
          have hsame := hd.symm.trans ((hentry _).mp ht)
          rw [(ih hentries _).mp hw, Except.ok.inj hsame]
        | leftOut hn hw => exact absurd haccepted hn
      · rintro rfl
        exact .kept ((hentry tree).mpr hd) ((ih hentries _).mpr rfl)
    | error e =>
      have hrefused : ¬Accepted s entry := by
        rw [← tryDecode_succeeds]
        rintro ⟨tree, hok⟩
        exact absurd (hd.symm.trans hok) nofun
      rw [decode_of_error s entry e hd]
      constructor
      · intro hw
        cases hw with
        | kept ht hw => exact absurd (hd.symm.trans ((hentry _).mp ht)) nofun
        | leftOut hn hw => exact (ih hentries _).mp hw
      · intro hw
        exact .leftOut hrefused ((ih hentries _).mpr hw)

theorem writes_iff (s : Settings) (document : Json) :
    ∀ tree, Writes s document tree ↔ tryDecode s document = .ok tree := by
  induction document using Json.entriesInduction with
  | step document ih =>
    intro tree
    rw [tryDecode_eq_ok]
    cases document with
    | object fields =>
      have htrees : ∀ entries, Json.member? "_sub_queries" fields = some (.array entries) → ∀ trees,
          WritesEach s entries trees ↔ (decodeEntries s 0 entries).1 = trees := by
        intro entries he
        rw [decodeEntries_eq]
        exact writesEach_iff s entries (ih entries (Json.entries?_object fields entries he))
      simp only [decodeTree_eq_ok]
      constructor
      · intro h
        cases h with
        | identity h => exact ⟨_, _, h, .identity⟩
        | all h => exact ⟨_, _, h, .all⟩
        | distinct h => exact ⟨_, _, h, .distinct⟩
        | filter h hc => exact ⟨_, _, h, .filter hc⟩
        | exclude h hc => exact ⟨_, _, h, .exclude hc⟩
        | orderBy h he => exact ⟨_, _, h, .orderBy he⟩
        | allOf h he hw =>
          obtain rfl := (htrees _ he _).mp hw
          exact ⟨_, _, h, .allOf he⟩
        | anyOf h he hw =>
          obtain rfl := (htrees _ he _).mp hw
          exact ⟨_, _, h, .anyOf he⟩
      · rintro ⟨dropped, cls, h, hb⟩
        cases hb with
        | identity => exact .identity h
        | all => exact .all h
        | distinct => exact .distinct h
        | filter hc => exact .filter h hc
        | exclude hc => exact .exclude h hc
        | orderBy he => exact .orderBy h he
        | allOf he => exact .allOf h he ((htrees _ he _).mpr rfl)
        | anyOf he => exact .anyOf h he ((htrees _ he _).mpr rfl)
    | null | bool _ | number _ | string _ | array _ =>
      constructor
      · intro h
        cases h
      · intro h
        simp [decodeTree] at h

theorem Writes.names {s : Settings} {document : Json} {tree : QueryTree} (h : Writes s document tree) :
    ∃ fields, document = .object fields ∧ Names s fields tree.queryClass := by
  cases h with
  | identity h | all h | distinct h => exact ⟨_, rfl, h⟩
  | filter h _ | exclude h _ | orderBy h _ => exact ⟨_, rfl, h⟩
  | allOf h _ _ | anyOf h _ _ => exact ⟨_, rfl, h⟩

/-- Decoding accepts just the documents of the grammar and gives just the trees that they write; the class of the
tree is the one that the tag of the document names. -/
theorem decodes_as_written (s : Settings) (document : Json) :
    ((∃ tree, tryDecode s document = .ok tree) ↔ Accepted s document) ∧
    (∀ tree, tryDecode s document = .ok tree ↔ Writes s document tree) ∧
    ∀ tree, tryDecode s document = .ok tree →
      ∃ fields, document = .object fields ∧ Names s fields tree.queryClass := by
  refine ⟨tryDecode_succeeds s document, fun tree => (writes_iff s document tree).symm, fun tree h => ?_⟩
  exact ((writes_iff s document tree).mpr h).names

end RecordQuery
