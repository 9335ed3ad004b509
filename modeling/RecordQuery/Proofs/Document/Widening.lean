import Mathlib.Data.List.Forall2
import RecordQuery.Proofs.Document.Diagnostics
import RecordQuery.Proofs.Document.Grammar

/-! Wider settings. Settings that admit more classes, or lists of paths and values of more lengths, decode more leaves
and leave every other document as it was: no tree is lost, none is changed but by what its composites now have besides,
and nothing is left out that was not left out before. -/
namespace RecordQuery
set_option autoImplicit false

/-- The second settings admit what the first do, and read values in the same way. -/
structure Settings.WidensTo (s s' : Settings) : Prop where
  coerceGeometry : s'.coerceGeometry = s.coerceGeometry
  nestedGroups : s.nestedGroups = true → s'.nestedGroups = true
  shape : s.shape = .truncate → s'.shape = .truncate

namespace QueryTree

/-- One tree is made of another by leaving out parts of composites, at any depth. -/
inductive PrunedFrom : QueryTree → QueryTree → Prop where
  | leaf (t : QueryTree) (h : t.queryClass.isComposite = false) : PrunedFrom t t
  | allOf {ts us : List QueryTree} (h : List.SublistForall₂ PrunedFrom ts us) : PrunedFrom (.allOf ts) (.allOf us)
  | anyOf {ts us : List QueryTree} (h : List.SublistForall₂ PrunedFrom ts us) : PrunedFrom (.anyOf ts) (.anyOf us)

mutual

/-- A tree without the parts that hold groups of conditions; the root stays whatever it is. -/
def withoutNested : QueryTree → QueryTree
  | identity => identity
  | all => all
  | filter form cs => filter form cs
  | exclude form cs => exclude form cs
  | orderBy entries => orderBy entries
  | distinct => distinct
  | allOf ts => allOf (withoutNestedEach ts)
  | anyOf ts => anyOf (withoutNestedEach ts)

def withoutNestedEach : List QueryTree → List QueryTree
  | [] => []
  | t :: ts => if t.queryClass.isNested then withoutNestedEach ts else withoutNested t :: withoutNestedEach ts

end

theorem withoutNested_of_leaf (t : QueryTree) (h : t.queryClass.isComposite = false) : t.withoutNested = t := by
  cases t with
  | allOf ts | anyOf ts => exact absurd h nofun
  | _ => simp [withoutNested]

end QueryTree

/-! ## One document under two settings -/

section Settings

variable {s s' : Settings}

theorem ShapePolicy.Admits.under {paths : List String} {values : List Json} (h : s.shape.Admits paths values)
    (hpaths : paths ≠ []) (hshape : s.shape = .truncate → s'.shape = .truncate) : s'.shape.Admits paths values := by
  have hvalues : values ≠ [] := ((admits_iff s paths values hpaths).mp h).2
  cases hs : s'.shape with
  | truncate => exact hvalues
  | reject =>
    have hreject : s.shape = .reject := by
      cases hr : s.shape with
      | reject => rfl
      | truncate => exact absurd (hs.symm.trans (hshape hr)) nofun
    rwa [hreject] at h

theorem ConditionsOf.under {fields : List (String × Json)} {form : ConditionForm} {conditions : List Condition}
    (h : ConditionsOf s fields form conditions) (hcoerce : s'.coerceGeometry = s.coerceGeometry)
    (hshape : s.shape = .truncate → s'.shape = .truncate) : ConditionsOf s' fields form conditions := by
  cases h with
  | single path value hcondition hvalue =>
    rw [← hcoerce]
    exact .single path value hcondition hvalue
  | several paths values hcondition hvalue hpaths hadmits =>
    rw [← hcoerce]
    exact .several paths values hcondition hvalue hpaths (hadmits.under hpaths hshape)
  | selfField path other hcondition hother => exact .selfField path other hcondition hother
  | nested outer inner value hcondition hinner hvalue => exact .nested outer inner value hcondition hinner hvalue

end Settings

/-- The trees of the entries that decode. -/
def entryTrees (s : Settings) (entries : List Json) : List QueryTree :=
  entries.filterMap fun entry => decode s (some entry)

theorem entryTrees_cons_of_ok (s : Settings) (entry : Json) (entries : List Json) (tree : QueryTree)
    (h : tryDecode s entry = .ok tree) : entryTrees s (entry :: entries) = tree :: entryTrees s entries := by
  rw [entryTrees, List.filterMap_cons, decode_of_ok s entry tree h]
  rfl

theorem entryTrees_cons_of_error (s : Settings) (entry : Json) (entries : List Json) (e : DecodeError)
    (h : tryDecode s entry = .error e) : entryTrees s (entry :: entries) = entryTrees s entries := by
  rw [entryTrees, List.filterMap_cons, decode_of_error s entry e h]
  rfl

/-- What a document that decodes under some settings is under others: a leaf is the same, if its class is still admitted
and lists of its lengths are; a composite is one of the trees that its entries now have. -/
inductive DecodedAs (s : Settings) (document : Json) : QueryTree → Prop where
  | leaf (tree : QueryTree) (hleaf : tree.queryClass.isComposite = false)
      (h : ∀ s' : Settings, s'.coerceGeometry = s.coerceGeometry → (s.shape = .truncate → s'.shape = .truncate) →
        (tree.queryClass.isNested = true → s'.nestedGroups = true) → tryDecode s' document = .ok tree) :
      DecodedAs s document tree
  | allOf (entries : List Json) (hentries : document.entries? = some entries)
      (h : ∀ s', tryDecode s' document = .ok (.allOf (entryTrees s' entries))) :
      DecodedAs s document (.allOf (entryTrees s entries))
  | anyOf (entries : List Json) (hentries : document.entries? = some entries)
      (h : ∀ s', tryDecode s' document = .ok (.anyOf (entryTrees s' entries))) :
      DecodedAs s document (.anyOf (entryTrees s entries))

theorem decodedAs {s : Settings} {document : Json} {tree : QueryTree} (h : tryDecode s document = .ok tree) :
    DecodedAs s document tree := by
  obtain ⟨dropped, h⟩ := (tryDecode_eq_ok s document tree).mp h
  cases document with
  | object fields =>
    obtain ⟨cls, hn, hb⟩ := (decodeTree_eq_ok s fields _).mp h
    have hok : ∀ (s' : Settings) (t : QueryTree) (left : List Diagnostic),
        (cls.isNested = true → s'.nestedGroups = true) → Built s' fields cls (t, left) →
          tryDecode s' (.object fields) = .ok t := by
      intro s' t left hadmitted hbuilt
      exact tryDecode_of_built s' fields cls t left ⟨hn.tag, hadmitted⟩ hbuilt
    have htrees : ∀ (s' : Settings) (entries : List Json), (decodeEntries s' 0 entries).1 = entryTrees s' entries := by
      intro s' entries
      rw [decodeEntries_eq]
      rfl
    cases hb with
    | identity => exact .leaf _ rfl fun s' _ _ hadmitted => hok s' _ _ hadmitted .identity
    | all => exact .leaf _ rfl fun s' _ _ hadmitted => hok s' _ _ hadmitted .all
    | distinct => exact .leaf _ rfl fun s' _ _ hadmitted => hok s' _ _ hadmitted .distinct
    | filter hc =>
      exact .leaf _ rfl fun s' hcoerce hshape hadmitted => hok s' _ _ hadmitted (.filter (hc.under hcoerce hshape))
    | exclude hc =>
      exact .leaf _ rfl fun s' hcoerce hshape hadmitted => hok s' _ _ hadmitted (.exclude (hc.under hcoerce hshape))
    | orderBy he => exact .leaf _ rfl fun s' _ _ hadmitted => hok s' _ _ hadmitted (.orderBy he)
    | allOf he =>
      rw [htrees]
      refine .allOf _ (Json.entries?_object fields _ he) fun s' => ?_
      rw [← htrees]
      exact hok s' _ _ nofun (.allOf he)
    | anyOf he =>
      rw [htrees]
      refine .anyOf _ (Json.entries?_object fields _ he) fun s' => ?_
      rw [← htrees]
      exact hok s' _ _ nofun (.anyOf he)
  | null | bool _ | number _ | string _ | array _ => simp [decodeTree] at h

/-- Whether a document decodes to a composite does not depend on the settings. -/
theorem composite_under {s : Settings} {document : Json} {tree : QueryTree} (h : tryDecode s document = .ok tree)
    (hcomposite : tree.queryClass.isComposite = true) (s' : Settings) :
    ∃ tree', tryDecode s' document = .ok tree' ∧ tree'.queryClass.isComposite = true := by
  cases decodedAs h with
  | leaf _ hleaf _ => exact absurd (hleaf.symm.trans hcomposite) nofun
  | allOf entries _ hd => exact ⟨_, hd s', rfl⟩
  | anyOf entries _ hd => exact ⟨_, hd s', rfl⟩

/-! ## Trees -/

section Trees

variable {s s' : Settings}

theorem entryTrees_widens (entries : List Json)
    (h : ∀ entry ∈ entries, ∀ tree, tryDecode s entry = .ok tree →
      ∃ tree', tryDecode s' entry = .ok tree' ∧ tree.PrunedFrom tree') :
    List.SublistForall₂ QueryTree.PrunedFrom (entryTrees s entries) (entryTrees s' entries) := by
  induction entries with
  | nil => exact .nil
  | cons entry entries ih =>
    obtain ⟨hentry, hentries⟩ := List.forall_mem_cons.mp h
    cases hd : tryDecode s entry with
    | ok tree =>
      obtain ⟨tree', hd', hpruned⟩ := hentry tree hd
      rw [entryTrees_cons_of_ok s entry entries tree hd, entryTrees_cons_of_ok s' entry entries tree' hd']
      exact .cons hpruned (ih hentries)
    | error e =>
      rw [entryTrees_cons_of_error s entry entries e hd]
      cases hd' : tryDecode s' entry with
      | ok tree' =>
        rw [entryTrees_cons_of_ok s' entry entries tree' hd']
        exact .cons_right (ih hentries)
      | error e' =>
        rw [entryTrees_cons_of_error s' entry entries e' hd']
        exact ih hentries

/-- What decodes still decodes under wider settings, to a tree of which the one before was a part. -/
theorem tryDecode_widens (h : s.WidensTo s') (document : Json) : ∀ tree, tryDecode s document = .ok tree →
    ∃ tree', tryDecode s' document = .ok tree' ∧ tree.PrunedFrom tree' := by
  induction document using Json.entriesInduction with
  | step document ih =>
    intro tree htree
    have hadmitted : tree.queryClass.isNested = true → s'.nestedGroups = true := by
      obtain ⟨fields, _, hn⟩ := ((writes_iff s document tree).mpr htree).names
      exact fun hnested => h.nestedGroups (hn.admitted hnested)
    cases decodedAs htree with
    | leaf _ hleaf hd => exact ⟨tree, hd s' h.coerceGeometry h.shape hadmitted, .leaf tree hleaf⟩
    | allOf entries hentries hd => exact ⟨_, hd s', .allOf (entryTrees_widens entries (ih entries hentries))⟩
    | anyOf entries hentries hd => exact ⟨_, hd s', .anyOf (entryTrees_widens entries (ih entries hentries))⟩

end Trees

/-! ## Groups of conditions -/

section Groups

variable {s s' : Settings}

theorem entryTrees_withoutNested (entries : List Json)
    (h : ∀ entry ∈ entries, ∀ tree, tryDecode s entry = .ok tree ↔
      ∃ tree', tryDecode s' entry = .ok tree' ∧ tree'.queryClass.isNested = false ∧ tree = tree'.withoutNested) :
    entryTrees s entries = QueryTree.withoutNestedEach (entryTrees s' entries) := by
  induction entries with
  | nil =>
    simp only [entryTrees, List.filterMap_nil]
    rw [QueryTree.withoutNestedEach]
  | cons entry entries ih =>
    obtain ⟨hentry, hentries⟩ := List.forall_mem_cons.mp h
    cases hd' : tryDecode s' entry with
    | ok tree' =>
      rw [entryTrees_cons_of_ok s' entry entries tree' hd', QueryTree.withoutNestedEach]
      cases hnested : tree'.queryClass.isNested with
      | false =>
        have hd : tryDecode s entry = .ok tree'.withoutNested := (hentry _).mpr ⟨tree', hd', hnested, rfl⟩
        rw [entryTrees_cons_of_ok s entry entries _ hd, ih hentries, if_neg nofun]
      | true =>
        rw [if_pos rfl, ← ih hentries]
        cases hd : tryDecode s entry with
        | error e => exact entryTrees_cons_of_error s entry entries e hd
        | ok tree =>
          obtain ⟨tree'', hd'', hplain, _⟩ := (hentry tree).mp hd
          obtain rfl : tree' = tree'' := Except.ok.inj (hd'.symm.trans hd'')
          exact absurd (hnested.symm.trans hplain) nofun
    | error e' =>
      rw [entryTrees_cons_of_error s' entry entries e' hd', ← ih hentries]
      cases hd : tryDecode s entry with
      | error e => exact entryTrees_cons_of_error s entry entries e hd
      | ok tree =>
        obtain ⟨tree', hok, _⟩ := (hentry tree).mp hd
        exact absurd (hd'.symm.trans hok) nofun

/-- Without groups of conditions a document decodes unless it is one itself, to what it would be with them less those
below it. -/
theorem tryDecode_withoutNested (hcoerce : s'.coerceGeometry = s.coerceGeometry) (hshape : s'.shape = s.shape)
    (hoff : s.nestedGroups = false) (hon : s'.nestedGroups = true) (document : Json) : ∀ tree,
    tryDecode s document = .ok tree ↔
      ∃ tree', tryDecode s' document = .ok tree' ∧ tree'.queryClass.isNested = false ∧ tree = tree'.withoutNested := by
  induction document using Json.entriesInduction with
  | step document ih =>
    intro tree
    constructor
    · intro htree
      have hplain : tree.queryClass.isNested = false := by
        obtain ⟨fields, _, hn⟩ := ((writes_iff s document tree).mpr htree).names
        cases hnested : tree.queryClass.isNested with
        | false => rfl
        | true => exact absurd (hoff.symm.trans (hn.admitted hnested)) nofun
      cases decodedAs htree with
      | leaf _ hleaf hd =>
        have hd' := hd s' hcoerce (fun ht => hshape.trans ht) fun _ => hon
        exact ⟨tree, hd', hplain, (tree.withoutNested_of_leaf hleaf).symm⟩
      | allOf entries hentries hd =>
        refine ⟨_, hd s', rfl, ?_⟩
        rw [QueryTree.withoutNested, ← entryTrees_withoutNested entries (ih entries hentries)]
      | anyOf entries hentries hd =>
        refine ⟨_, hd s', rfl, ?_⟩
        rw [QueryTree.withoutNested, ← entryTrees_withoutNested entries (ih entries hentries)]
    · rintro ⟨tree', htree', hplain, rfl⟩
      cases decodedAs htree' with
      | leaf _ hleaf hd =>
        rw [tree'.withoutNested_of_leaf hleaf]
        exact hd s hcoerce.symm (fun ht => hshape.symm.trans ht) fun hnested => absurd (hplain.symm.trans hnested) nofun
      | allOf entries hentries hd =>
        rw [QueryTree.withoutNested, ← entryTrees_withoutNested entries (ih entries hentries)]
        exact hd s
      | anyOf entries hentries hd =>
        rw [QueryTree.withoutNested, ← entryTrees_withoutNested entries (ih entries hentries)]
        exact hd s

end Groups

/-! ## What is left out -/

theorem LeftOut.narrows {s s' : Settings} (h : s.WidensTo s') {document : Json} {path : List Nat} {e' : DecodeError}
    (hleft : LeftOut s' document path e') : ∃ e, LeftOut s document path e := by
  obtain ⟨part, hpart, hfails⟩ := hleft.fails
  cases hd : tryDecode s part with
  | ok tree =>
    obtain ⟨tree', hd', _⟩ := tryDecode_widens h part tree hd
    exact absurd (hfails.symm.trans hd') nofun
  | error e =>
    refine ⟨e, fun above hprefix hne => ?_, part, hpart, hd⟩
    obtain ⟨whole, tree', hwhole, htree', hcomposite'⟩ := hleft.above above hprefix hne
    obtain ⟨tree, htree, hcomposite⟩ := composite_under htree' hcomposite' s
    exact ⟨whole, tree, hwhole, htree, hcomposite⟩

/-- Wider settings lose no tree. What a document decodes to is made of what it decodes to under them by leaving out
parts of composites, and the places that they leave out were left out before. If they admit groups of conditions and
nothing else besides, a document decodes to what it would be under them without such groups, unless it is one itself.
-/
theorem wider_settings_lose_nothing {s s' : Settings} (h : s.WidensTo s') (document : Json) :
    (∀ tree, tryDecode s document = .ok tree →
      ∃ tree', tryDecode s' document = .ok tree' ∧ tree.PrunedFrom tree') ∧
    ((decodeWithDiagnostics s' document).diagnostics.map Diagnostic.path ⊆
      (decodeWithDiagnostics s document).diagnostics.map Diagnostic.path) ∧
    (s.nestedGroups = false → s' = { s with nestedGroups := true } → ∀ tree,
      tryDecode s document = .ok tree ↔
        ∃ tree', tryDecode s' document = .ok tree' ∧ tree'.queryClass.isNested = false ∧
          tree = tree'.withoutNested) := by
  refine ⟨tryDecode_widens h document, fun path hpath => ?_, fun hoff hsame => ?_⟩
  · obtain ⟨⟨_, e'⟩, hd, rfl⟩ := List.mem_map.mp hpath
    obtain ⟨e, hleft⟩ := LeftOut.narrows h ((mem_diagnostics s' document _ e').mp hd)
    exact List.mem_map.mpr ⟨⟨_, e⟩, (mem_diagnostics s document _ e).mpr hleft, rfl⟩
  · have hshape : s'.shape = s.shape := by rw [hsame]
    have hon : s'.nestedGroups = true := by rw [hsame]
    exact tryDecode_withoutNested h.coerceGeometry hshape hoff hon document

/-! ## An uneven document -/

/-- A composite with a group of conditions, with more paths than values, and with an entry that is never a query. -/
def unevenDocument : Json :=
  .object [("_query_class", .string "compositeand"), ("_sub_queries", .array [
    .object [("_condition", .string "author"), ("_inner_condition", .string "name"),
      ("_query_class", .string "nestedfilter"), ("_value", .string "Ada")],
    .object [("_condition", .array [.string "votes__gt", .string "title"]), ("_query_class", .string "filter"),
      ("_value", .array [.number (.int 5)])],
    .object [("_query_class", .string "compositeor"),
      ("_sub_queries", .array [.object [("_query_class", .string "all")], .null])]])]

def strict : Settings := { nestedGroups := false }

def lenient : Settings := { shape := .truncate }

theorem unevenDocument_loses_nothing :
    strict.WidensTo lenient ∧
    tryDecode strict unevenDocument = .ok (.allOf [.anyOf [.all]]) ∧
    (∃ tree', tryDecode lenient unevenDocument = .ok tree' ∧ (QueryTree.allOf [.anyOf [.all]]).PrunedFrom tree') ∧
    [[2, 1]] ⊆ [[0], [1], [2, 1]] ∧
    strict.WidensTo { strict with nestedGroups := true } ∧ strict.nestedGroups = false ∧
    ∃ tree', tryDecode { strict with nestedGroups := true } unevenDocument = .ok tree' ∧
      tree'.queryClass.isNested = false ∧ QueryTree.allOf [.anyOf [.all]] = tree'.withoutNested := by
  have hstrict : tryDecode strict unevenDocument = .ok (.allOf [.anyOf [.all]]) := rfl
  have hlenient : strict.WidensTo lenient := ⟨rfl, nofun, nofun⟩
  have hgroups : strict.WidensTo { strict with nestedGroups := true } := ⟨rfl, nofun, nofun⟩
  obtain ⟨htrees, hplaces, _⟩ := wider_settings_lose_nothing hlenient unevenDocument
  obtain ⟨_, _, honly⟩ := wider_settings_lose_nothing hgroups unevenDocument
  exact ⟨hlenient, hstrict, htrees _ hstrict, hplaces, hgroups, rfl, (honly rfl rfl _).mp hstrict⟩

end RecordQuery
