import RecordQuery.Proofs.Document.Fields

/-! Diagnostics of a document. They are the places, told by the indices that lead there, where an entry of a composite
does not decode, each with the error of that entry by itself; what lies below such a place is not looked at. They
stand in the order of the document. -/
namespace RecordQuery
set_option autoImplicit false

/-! ## Places -/

/-- The document that indices lead to, each of them choosing among the entries of the one before. -/
def Json.entryAt? : Json → List Nat → Option Json
  | document, [] => some document
  | document, i :: path => do
    let entries ← document.entries?
    let entry ← entries[i]?
    entry.entryAt? path

theorem Json.entryAt?_cons (document part : Json) (i : Nat) (path : List Nat) :
    document.entryAt? (i :: path) = some part ↔
      ∃ entries entry, document.entries? = some entries ∧ entries[i]? = some entry ∧
        entry.entryAt? path = some part := by
  simp only [entryAt?, Option.bind_eq_bind, Option.bind_eq_some_iff, exists_and_left]

/-- A path leads through composites that decode to a document that does not. -/
structure LeftOut (s : Settings) (document : Json) (path : List Nat) (e : DecodeError) : Prop where
  above : ∀ above, above <+: path → above ≠ path → ∃ part tree, document.entryAt? above = some part ∧
    tryDecode s part = .ok tree ∧ tree.queryClass.isComposite = true
  fails : ∃ part, document.entryAt? path = some part ∧ tryDecode s part = .error e

namespace LeftOut

variable (s : Settings) (document : Json) (e : DecodeError)

theorem nil_iff : LeftOut s document [] e ↔ tryDecode s document = .error e := by
  constructor
  · rintro ⟨_, part, hpart, he⟩
    rwa [← Option.some.inj hpart] at he
  · intro h
    exact ⟨fun above hp hne => absurd (List.prefix_nil.mp hp) hne, document, rfl, h⟩

theorem cons_iff (i : Nat) (path : List Nat) :
    LeftOut s document (i :: path) e ↔
      (∃ tree, tryDecode s document = .ok tree ∧ tree.queryClass.isComposite = true) ∧
      ∃ entries entry, document.entries? = some entries ∧ entries[i]? = some entry ∧ LeftOut s entry path e := by
  constructor
  · rintro ⟨habove, part, hpart, he⟩
    obtain ⟨root, tree, hroot, htree, hcomposite⟩ := habove [] List.nil_prefix nofun
    obtain rfl : document = root := Option.some.inj hroot
    refine ⟨⟨tree, htree, hcomposite⟩, ?_⟩
    obtain ⟨entries, entry, hentries, hentry, hpart⟩ := (Json.entryAt?_cons _ _ _ _).mp hpart
    refine ⟨entries, entry, hentries, hentry, fun above hp hne => ?_, part, hpart, he⟩
    obtain ⟨inner, tree', hinner, htree'⟩ :=
      habove (i :: above) ((List.prefix_cons_inj i).mpr hp) fun h => hne (List.cons.inj h).2
    obtain ⟨entries', entry', hentries', hentry', hinner⟩ := (Json.entryAt?_cons _ _ _ _).mp hinner
    obtain rfl : entries = entries' := Option.some.inj (hentries.symm.trans hentries')
    obtain rfl : entry = entry' := Option.some.inj (hentry.symm.trans hentry')
    exact ⟨inner, tree', hinner, htree'⟩
  · rintro ⟨⟨tree, htree, hcomposite⟩, entries, entry, hentries, hentry, habove, part, hpart, he⟩
    refine ⟨fun above hp hne => ?_, part, ?_, he⟩
    · cases above with
      | nil => exact ⟨document, tree, rfl, htree, hcomposite⟩
      | cons j above =>
        obtain ⟨rfl, hbelow⟩ := List.cons_prefix_cons.mp hp
        obtain ⟨inner, tree', hinner, htree'⟩ := habove above hbelow fun h => hne (by rw [h])
        exact ⟨inner, tree', (Json.entryAt?_cons _ _ _ _).mpr ⟨entries, entry, hentries, hentry, hinner⟩, htree'⟩
    · exact (Json.entryAt?_cons _ _ _ _).mpr ⟨entries, entry, hentries, hentry, hpart⟩

end LeftOut

/-! ## What a document leaves out -/

theorem diagnostics_of_error (s : Settings) (document : Json) (e : DecodeError)
    (h : tryDecode s document = .error e) : decodeWithDiagnostics s document = ⟨none, [⟨[], e⟩]⟩ := by
  rw [decodeWithDiagnostics, (tryDecode_eq_error s document e).mp h]

/-- A composite leaves out what its entries do, and every other document nothing. -/
theorem diagnostics_of_ok (s : Settings) (document : Json) (tree : QueryTree) (h : tryDecode s document = .ok tree) :
    (tree.queryClass.isComposite = true ∧ ∃ entries, document.entries? = some entries ∧
      decodeWithDiagnostics s document = ⟨some tree, (decodeEntries s 0 entries).2⟩) ∨
    (tree.queryClass.isComposite = false ∧ decodeWithDiagnostics s document = ⟨some tree, []⟩) := by
  obtain ⟨dropped, h⟩ := (tryDecode_eq_ok s document tree).mp h
  rw [decodeWithDiagnostics, h]
  cases document with
  | object fields =>
    obtain ⟨cls, _, hb⟩ := (decodeTree_eq_ok s fields _).mp h
    cases hb with
    | identity | all | distinct | filter _ | exclude _ | orderBy _ => exact .inr ⟨rfl, rfl⟩
    | allOf he | anyOf he => exact .inl ⟨rfl, _, Json.entries?_object fields _ he, rfl⟩
  | null | bool _ | number _ | string _ | array _ => simp [decodeTree] at h

theorem mem_decodeEntries (s : Settings) (entries : List Json) (path : List Nat) (e : DecodeError) :
    ⟨path, e⟩ ∈ (decodeEntries s 0 entries).2 ↔
      ∃ i below entry, path = i :: below ∧ entries[i]? = some entry ∧
        ⟨below, e⟩ ∈ (decodeWithDiagnostics s entry).diagnostics := by
  simp only [decodeEntries_eq, List.mem_flatMap, List.mem_map]
  constructor
  · rintro ⟨⟨entry, i⟩, hentry, ⟨below, e'⟩, hd, heq⟩
    obtain ⟨rfl, rfl⟩ := Diagnostic.mk.inj heq
    exact ⟨i, below, entry, rfl, List.mem_zipIdx_iff_getElem?.mp hentry, hd⟩
  · rintro ⟨i, below, entry, rfl, hentry, hd⟩
    exact ⟨(entry, i), List.mem_zipIdx_iff_getElem?.mpr hentry, ⟨below, e⟩, hd, rfl⟩

/-- The diagnostics of a document are its places that are left out. -/
theorem mem_diagnostics (s : Settings) (document : Json) : ∀ (path : List Nat) (e : DecodeError),
    ⟨path, e⟩ ∈ (decodeWithDiagnostics s document).diagnostics ↔ LeftOut s document path e := by
  induction document using Json.entriesInduction with
  | step document ih =>
    intro path e
    cases h : tryDecode s document with
    | error e' =>
      rw [diagnostics_of_error s document e' h, List.mem_singleton, Diagnostic.mk.injEq]
      -- the root itself is left out, and a place below it would need it to decode
      cases path with
      | nil => rw [LeftOut.nil_iff, h, Except.error.injEq, eq_self, true_and, eq_comm]
      | cons i path => simp [LeftOut.cons_iff, h]
    | ok tree =>
      rcases diagnostics_of_ok s document tree h with ⟨hcomposite, entries, hentries, hd⟩ | ⟨hleaf, hd⟩
      · rw [hd, mem_decodeEntries]
        cases path with
        | nil => simp [LeftOut.nil_iff, h]
        | cons i path =>
          rw [LeftOut.cons_iff]
          constructor
          · rintro ⟨_, _, entry, heq, hentry, hmem⟩
            obtain ⟨rfl, rfl⟩ := List.cons.inj heq
            have hleft := (ih entries hentries entry (List.mem_of_getElem? hentry) path e).mp hmem
            exact ⟨⟨tree, h, hcomposite⟩, entries, entry, hentries, hentry, hleft⟩
          · rintro ⟨_, entries', entry, hentries', hentry, hleft⟩
            obtain rfl : entries = entries' := Option.some.inj (hentries.symm.trans hentries')
            have hmem := (ih entries hentries entry (List.mem_of_getElem? hentry) path e).mpr hleft
            exact ⟨i, path, entry, rfl, hentry, hmem⟩
      · rw [hd]
        cases path with
        | nil => simp [LeftOut.nil_iff, h]
        | cons i path => simp [LeftOut.cons_iff, h, hleaf]

/-! ## Their order -/

theorem pairwise_zipIdx (entries : List Json) (index : Nat) :
    (entries.zipIdx index).Pairwise fun a b => a.2 < b.2 := by
  induction entries generalizing index with
  | nil => exact List.Pairwise.nil
  | cons entry entries ih =>
    rw [List.zipIdx_cons, List.pairwise_cons]
    exact ⟨fun place h => List.le_snd_of_mem_zipIdx h, ih (index + 1)⟩

/-- Diagnostics stand in the order of their places, and no place is told twice. -/
theorem increasing_diagnostics (s : Settings) (document : Json) :
    (decodeWithDiagnostics s document).diagnostics.Pairwise fun a b => a.path < b.path := by
  induction document using Json.entriesInduction with
  | step document ih =>
    cases h : tryDecode s document with
    | error e =>
      rw [diagnostics_of_error s document e h]
      exact List.pairwise_singleton _ _
    | ok tree =>
      rcases diagnostics_of_ok s document tree h with ⟨_, entries, hentries, hd⟩ | ⟨_, hd⟩
      · rw [hd, decodeEntries_eq, List.pairwise_flatMap]
        -- in order within each entry by induction, and from entry to entry by the first index
        constructor
        · rintro ⟨entry, i⟩ hentry
          have hmem : entry ∈ entries := List.mem_of_getElem? (List.mem_zipIdx_iff_getElem?.mp hentry)
          rw [List.pairwise_map]
          exact (ih entries hentries entry hmem).imp fun hlt => List.cons_lt_cons_iff.mpr (.inr ⟨rfl, hlt⟩)
        · refine (pairwise_zipIdx entries 0).imp fun {a b} hlt x hx y hy => ?_
          obtain ⟨_, _, rfl⟩ := List.mem_map.mp hx
          obtain ⟨_, _, rfl⟩ := List.mem_map.mp hy
          exact List.cons_lt_cons_iff.mpr (.inl hlt)
      · rw [hd]
        exact List.Pairwise.nil

/-- Above a place that is left out everything decodes, so no such place lies below another. -/
theorem LeftOut.eq_of_prefix {s : Settings} {document : Json} {path below : List Nat} {e e' : DecodeError}
    (h : LeftOut s document path e) (h' : LeftOut s document below e') (hp : path <+: below) :
    path = below ∧ e = e' := by
  obtain ⟨part, hpart, he⟩ := h.fails
  by_cases heq : path = below
  · subst heq
    obtain ⟨part', hpart', he'⟩ := h'.fails
    obtain rfl : part = part' := Option.some.inj (hpart.symm.trans hpart')
    exact ⟨rfl, Except.error.inj (he.symm.trans he')⟩
  · obtain ⟨part', tree, hpart', hok, _⟩ := h'.above path hp heq
    obtain rfl : part = part' := Option.some.inj (hpart.symm.trans hpart')
    exact absurd (he.symm.trans hok) nofun

/-! ## Exactness -/

theorem tree_of_diagnostics (s : Settings) (document : Json) :
    (decodeWithDiagnostics s document).tree = decode s (some document) := by
  cases h : tryDecode s document with
  | error e => rw [diagnostics_of_error s document e h, decode_of_error s document e h]
  | ok tree =>
    rw [decode_of_ok s document tree h]
    rcases diagnostics_of_ok s document tree h with ⟨_, entries, _, hd⟩ | ⟨_, hd⟩
    · rw [hd]
    · rw [hd]

/-- With diagnostics a document decodes to the same tree as without. A root that does not decode is all that is
told; else the places below it are told that are left out, each once, in order, and none below another. -/
theorem diagnostics_exact (s : Settings) (document : Json) :
    (decodeWithDiagnostics s document).tree = decode s (some document) ∧
    decode s (some document) = (tryDecode s document).toOption ∧
    ((∃ e, tryDecode s document = .error e ∧ (decodeWithDiagnostics s document).diagnostics = [⟨[], e⟩]) ∨
      ∃ tree, tryDecode s document = .ok tree ∧
        (∀ path e, ⟨path, e⟩ ∈ (decodeWithDiagnostics s document).diagnostics ↔
          path ≠ [] ∧ LeftOut s document path e) ∧
        ((decodeWithDiagnostics s document).diagnostics.map Diagnostic.path).Pairwise (· < ·) ∧
        ∀ d ∈ (decodeWithDiagnostics s document).diagnostics,
          ∀ d' ∈ (decodeWithDiagnostics s document).diagnostics, d.path <+: d'.path → d = d') := by
  refine ⟨tree_of_diagnostics s document, rfl, ?_⟩
  cases h : tryDecode s document with
  | error e => exact .inl ⟨e, rfl, by rw [diagnostics_of_error s document e h]⟩
  | ok tree =>
    refine .inr ⟨tree, rfl, fun path e => ?_, ?_, ?_⟩
    · rw [mem_diagnostics]
      constructor
      · intro hleft
        refine ⟨?_, hleft⟩
        rintro rfl
        exact absurd (h.symm.trans ((LeftOut.nil_iff s document e).mp hleft)) nofun
      · exact And.right
    · rw [List.pairwise_map]
      exact increasing_diagnostics s document
    · rintro ⟨path, e⟩ hd ⟨path', e'⟩ hd' hp
      rw [mem_diagnostics] at hd hd'
      obtain ⟨rfl, rfl⟩ := hd.eq_of_prefix hd' hp
      rfl

example :
    decodeWithDiagnostics {} (.object [("_query_class", .string "CompositeQuery"), ("_sub_queries", .array [
      .object [("_query_class", .string "filter")],
      .object [("_query_class", .string "all")],
      .object [("_query_class", .string "OrQuery"), ("_sub_queries", .array [
        .object [("_query_class", .string "distinct")], .null])]])]) =
    ⟨some (.allOf [.all, .anyOf [.distinct]]),
      [⟨[0], .missingField (.filter .plain) "_condition"⟩, ⟨[2, 1], .null⟩]⟩ := rfl

end RecordQuery
