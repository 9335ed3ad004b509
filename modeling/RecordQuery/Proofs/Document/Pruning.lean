import RecordQuery.Proofs.Document.Diagnostics

/-! Documents without what is left out of them. Deleting every entry that a diagnostic tells of gives a document that
decodes to the same tree, and that leaves out nothing more. -/
namespace RecordQuery
set_option autoImplicit false

/-! ## Deleting entries -/

namespace Json

mutual

/-- A document without the entries at some places. The indices of a place count the entries of the document as it was,
deleted ones included. -/
def without (deleted : List Nat → Bool) : Json → Json
  | object members => object (withoutMembers deleted members)
  | document => document

def withoutMembers (deleted : List Nat → Bool) : List (String × Json) → List (String × Json)
  | [] => []
  | (key, value) :: members =>
    if key = "_sub_queries" then (key, withoutItems deleted value) :: members
    else (key, value) :: withoutMembers deleted members

def withoutItems (deleted : List Nat → Bool) : Json → Json
  | array entries => array (withoutEntries deleted 0 entries)
  | value => value

/-- The entries that are not deleted, each without those deleted below it; `index` counts those before. -/
def withoutEntries (deleted : List Nat → Bool) (index : Nat) : List Json → List Json
  | [] => []
  | entry :: entries =>
    if deleted [index] then withoutEntries deleted (index + 1) entries
    else entry.without (fun path => deleted (index :: path)) :: withoutEntries deleted (index + 1) entries

end

theorem member?_withoutMembers (deleted : List Nat → Bool) (key : String) (members : List (String × Json)) :
    member? key (withoutMembers deleted members) =
      if key = "_sub_queries" then (member? key members).map (withoutItems deleted) else member? key members := by
  induction members with
  | nil =>
    rw [withoutMembers, member?, Option.map_none, ite_self]
  | cons m ms ih =>
    obtain ⟨k, value⟩ := m
    rw [withoutMembers, member?]
    by_cases hk : k = "_sub_queries"
    · rw [if_pos hk, member?]
      by_cases hkey : k = key
      · rw [if_pos hkey, if_pos hkey, if_pos (hkey.symm.trans hk), Option.map_some]
      · rw [if_neg hkey, if_neg hkey, if_neg fun h => hkey (hk.trans h.symm)]
    · rw [if_neg hk, member?]
      by_cases hkey : k = key
      · rw [if_pos hkey, if_pos hkey, if_neg fun h => hk (hkey.trans h)]
      · rw [if_neg hkey, if_neg hkey, ih]

mutual

theorem without_of_none : ∀ (document : Json) (deleted : List Nat → Bool), (∀ path, deleted path = false) →
    document.without deleted = document
  | object members, deleted, h => by rw [without, withoutMembers_of_none members deleted h]
  | null, _, _ | bool _, _, _ | number _, _, _ | string _, _, _ | array _, _, _ => by simp only [without]

theorem withoutMembers_of_none : ∀ (members : List (String × Json)) (deleted : List Nat → Bool),
    (∀ path, deleted path = false) → withoutMembers deleted members = members
  | [], _, _ => by rw [withoutMembers]
  | (key, value) :: members, deleted, h => by
    rw [withoutMembers, withoutItems_of_none value deleted h, withoutMembers_of_none members deleted h, ite_self]

theorem withoutItems_of_none : ∀ (value : Json) (deleted : List Nat → Bool), (∀ path, deleted path = false) →
    withoutItems deleted value = value
  | array entries, deleted, h => by rw [withoutItems, withoutEntries_of_none entries deleted h 0]
  | null, _, _ | bool _, _, _ | number _, _, _ | string _, _, _ | object _, _, _ => by simp only [withoutItems]

theorem withoutEntries_of_none : ∀ (entries : List Json) (deleted : List Nat → Bool),
    (∀ path, deleted path = false) → ∀ index, withoutEntries deleted index entries = entries
  | [], _, _, _ => by rw [withoutEntries]
  | entry :: entries, deleted, h, index => by
    have hentry := without_of_none entry (fun path => deleted (index :: path)) fun path => h (index :: path)
    rw [withoutEntries, h, if_neg Bool.false_ne_true, hentry, withoutEntries_of_none entries deleted h (index + 1)]

end

end Json

/-! ## Places that are left out -/

/-- The places that a document leaves out, in order. -/
def placesLeftOut (s : Settings) (document : Json) : List (List Nat) :=
  (decodeWithDiagnostics s document).diagnostics.map Diagnostic.path

/-- A document without what it leaves out. -/
def pruned (s : Settings) (document : Json) : Json := document.without fun path => path ∈ placesLeftOut s document

section Places

variable (s : Settings) (document : Json)

theorem mem_placesLeftOut (path : List Nat) : path ∈ placesLeftOut s document ↔ ∃ e, LeftOut s document path e := by
  rw [placesLeftOut, List.mem_map]
  constructor
  · rintro ⟨⟨_, e⟩, hd, rfl⟩
    exact ⟨e, (mem_diagnostics s document _ e).mp hd⟩
  · rintro ⟨e, hleft⟩
    exact ⟨⟨path, e⟩, (mem_diagnostics s document path e).mpr hleft, rfl⟩

theorem nil_mem_placesLeftOut : [] ∈ placesLeftOut s document ↔ ∃ e, tryDecode s document = .error e := by
  simp only [mem_placesLeftOut, LeftOut.nil_iff]

theorem cons_mem_placesLeftOut (tree : QueryTree) (entries : List Json) (htree : tryDecode s document = .ok tree)
    (hcomposite : tree.queryClass.isComposite = true) (hentries : document.entries? = some entries) (i : Nat)
    (entry : Json) (hentry : entries[i]? = some entry) (path : List Nat) :
    i :: path ∈ placesLeftOut s document ↔ path ∈ placesLeftOut s entry := by
  simp only [mem_placesLeftOut, LeftOut.cons_iff]
  constructor
  · rintro ⟨e, _, entries', entry', hentries', hentry', hleft⟩
    obtain rfl : entries = entries' := Option.some.inj (hentries.symm.trans hentries')
    obtain rfl : entry = entry' := Option.some.inj (hentry.symm.trans hentry')
    exact ⟨e, hleft⟩
  · rintro ⟨e, hleft⟩
    exact ⟨e, ⟨tree, htree, hcomposite⟩, entries, entry, hentries, hentry, hleft⟩

theorem pruned_eq_self (tree : QueryTree) (h : decodeTree s document = .ok (tree, [])) :
    pruned s document = document := by
  refine document.without_of_none _ fun path => ?_
  rw [placesLeftOut, decodeWithDiagnostics, h]
  rfl

end Places

/-! ## Decoding what is left -/

section Decoding

variable (s : Settings)

theorem Names.without {fields : List (String × Json)} {cls : QueryClass} (h : Names s fields cls)
    (deleted : List Nat → Bool) : Names s (Json.withoutMembers deleted fields) cls := by
  obtain ⟨tag, name, htag, hname⟩ := h.tag
  refine ⟨⟨tag, name, ?_, hname⟩, h.admitted⟩
  rw [Json.member?_withoutMembers, if_neg (by decide), htag]

/-- Entries decode to the same trees without those that do not decode, if each of the others does without what it
leaves out. -/
theorem decodeEntries_withoutEntries (deleted : List Nat → Bool) (entries : List Json)
    (hpruned : ∀ entry ∈ entries, ∀ tree, tryDecode s entry = .ok tree →
      decodeTree s (pruned s entry) = .ok (tree, [])) (index start : Nat)
    (hplaces : ∀ i entry, entries[i]? = some entry → ∀ path,
      deleted ((index + i) :: path) = decide (path ∈ placesLeftOut s entry)) :
    decodeEntries s start (Json.withoutEntries deleted index entries) =
      (entries.filterMap fun entry => decode s (some entry), []) := by
  -- deleting counts the entries as they were and decoding those that are left, so the two counters move apart
  induction entries generalizing index start with
  | nil =>
    rw [Json.withoutEntries, decodeEntries]
    rfl
  | cons entry entries ih =>
    obtain ⟨hentry, hentries⟩ := List.forall_mem_cons.mp hpruned
    have hhead : ∀ path, deleted (index :: path) = decide (path ∈ placesLeftOut s entry) := hplaces 0 entry rfl
    have htail : ∀ i e, entries[i]? = some e → ∀ path,
        deleted ((index + 1 + i) :: path) = decide (path ∈ placesLeftOut s e) := by
      intro i e he path
      rw [Nat.add_assoc, Nat.add_comm 1 i]
      exact hplaces (i + 1) e he path
    rw [Json.withoutEntries, hhead, List.filterMap_cons]
    cases hd : tryDecode s entry with
    | error e =>
      have hdeleted : [] ∈ placesLeftOut s entry := (nil_mem_placesLeftOut s entry).mpr ⟨e, hd⟩
      rw [decide_eq_true hdeleted, if_pos rfl, decode_of_error s entry e hd]
      exact ih hentries (index + 1) start htail
    | ok tree =>
      have hkept : [] ∉ placesLeftOut s entry := by
        rw [nil_mem_placesLeftOut]
        rintro ⟨e, he⟩
        cases hd.symm.trans he
      have hbelow : (entry.without fun path => deleted (index :: path)) = pruned s entry :=
        congrArg entry.without (funext hhead)
      rw [decide_eq_false hkept, if_neg Bool.false_ne_true, decode_of_ok s entry tree hd, hbelow, decodeEntries,
        ih hentries (index + 1) (start + 1) htail, hentry tree hd]
      rfl

/-- The entries that are left of a document that decodes to a composite give the composite's parts. -/
theorem entries_pruned (fields : List (String × Json)) (tree : QueryTree) (entries : List Json)
    (htree : tryDecode s (.object fields) = .ok tree) (hcomposite : tree.queryClass.isComposite = true)
    (he : Json.member? "_sub_queries" fields = some (.array entries))
    (hpruned : ∀ entry ∈ entries, ∀ tree, tryDecode s entry = .ok tree →
      decodeTree s (pruned s entry) = .ok (tree, [])) :
    ∃ members rest, pruned s (.object fields) = .object members ∧
      (∀ cls, Names s fields cls → Names s members cls) ∧
      Json.member? "_sub_queries" members = some (.array rest) ∧
      decodeEntries s 0 rest = ((decodeEntries s 0 entries).1, []) := by
  have hentries := Json.entries?_object fields entries he
  refine ⟨_, Json.withoutEntries (fun path => path ∈ placesLeftOut s (.object fields)) 0 entries,
    by rw [pruned, Json.without], fun cls hn => hn.without s _, ?_, ?_⟩
  · rw [Json.member?_withoutMembers, if_pos rfl, he, Option.map_some, Json.withoutItems]
  · rw [decodeEntries_eq s entries]
    refine decodeEntries_withoutEntries s _ entries hpruned 0 0 fun i entry hentry path => ?_
    rw [Nat.zero_add, decide_eq_decide]
    exact cons_mem_placesLeftOut s _ tree entries htree hcomposite hentries i entry hentry path

theorem decodeTree_pruned (document : Json) : ∀ tree, tryDecode s document = .ok tree →
    decodeTree s (pruned s document) = .ok (tree, []) := by
  induction document using Json.entriesInduction with
  | step document ih =>
    intro tree htree
    obtain ⟨dropped, h⟩ := (tryDecode_eq_ok s document tree).mp htree
    cases document with
    | object fields =>
      obtain ⟨cls, hn, hb⟩ := (decodeTree_eq_ok s fields _).mp h
      cases hb with
      | identity | all | distinct | filter _ | exclude _ | orderBy _ =>
        rw [pruned_eq_self s _ _ h]
        exact h
      | @allOf entries he =>
        have hpruned := ih entries (Json.entries?_object fields entries he)
        obtain ⟨members, rest, hmembers, hnames, hrest, htrees⟩ :=
          entries_pruned s fields _ entries htree rfl he hpruned
        have hbuilt := Built.allOf (s := s) hrest
        rw [htrees] at hbuilt
        rw [hmembers]
        exact (decodeTree_eq_ok s members _).mpr ⟨_, hnames _ hn, hbuilt⟩
      | @anyOf entries he =>
        have hpruned := ih entries (Json.entries?_object fields entries he)
        obtain ⟨members, rest, hmembers, hnames, hrest, htrees⟩ :=
          entries_pruned s fields _ entries htree rfl he hpruned
        have hbuilt := Built.anyOf (s := s) hrest
        rw [htrees] at hbuilt
        rw [hmembers]
        exact (decodeTree_eq_ok s members _).mpr ⟨_, hnames _ hn, hbuilt⟩
    | null | bool _ | number _ | string _ | array _ => simp [decodeTree] at h

end Decoding

/-- Deleting from a document that decodes the entries that its diagnostics tell of, and no others, gives a document that
decodes to the same tree and has no diagnostics. -/
theorem pruned_decodes_alike {s : Settings} {document : Json} {tree : QueryTree} (h : tryDecode s document = .ok tree) :
    tryDecode s (pruned s document) = .ok tree ∧
    (decodeWithDiagnostics s (pruned s document)).diagnostics = [] := by
  have hdecode := decodeTree_pruned s document tree h
  exact ⟨(tryDecode_eq_ok s _ tree).mpr ⟨[], hdecode⟩, by rw [decodeWithDiagnostics, hdecode]⟩

/-- Of three entries the first does not decode, and of the last one two parts, at different depths. -/
def patchyDocument : Json :=
  .object [("_query_class", .string "compositeand"), ("_sub_queries", .array [
    .object [("_query_class", .string "filter")],
    .object [("_query_class", .string "all")],
    .object [("_query_class", .string "compositeor"), ("_sub_queries", .array [
      .null,
      .object [("_query_class", .string "distinct")],
      .object [("_query_class", .string "compositeand"), ("_sub_queries", .array [
        .object [("_query_class", .string "query")], .string "all"])]])]])]

def soundDocument : Json :=
  .object [("_query_class", .string "compositeand"), ("_sub_queries", .array [
    .object [("_query_class", .string "all")],
    .object [("_query_class", .string "compositeor"), ("_sub_queries", .array [
      .object [("_query_class", .string "distinct")],
      .object [("_query_class", .string "compositeand"), ("_sub_queries", .array [
        .object [("_query_class", .string "query")]])]])]])]

theorem patchyDocument_decodes_alike :
    tryDecode {} patchyDocument = .ok (.allOf [.all, .anyOf [.distinct, .allOf [.identity]]]) ∧
    placesLeftOut {} patchyDocument = [[0], [2, 0], [2, 2, 1]] ∧
    pruned {} patchyDocument = soundDocument ∧
    tryDecode {} soundDocument = .ok (.allOf [.all, .anyOf [.distinct, .allOf [.identity]]]) ∧
    (decodeWithDiagnostics {} soundDocument).diagnostics = [] := by
  have hdecode : tryDecode {} patchyDocument = .ok (.allOf [.all, .anyOf [.distinct, .allOf [.identity]]]) := rfl
  have hpruned : pruned {} patchyDocument = soundDocument := rfl
  have halike := pruned_decodes_alike hdecode
  rw [hpruned] at halike
  exact ⟨hdecode, rfl, hpruned, halike⟩

end RecordQuery
