import RecordQuery.Proofs.Document.Entries

/-! What one document says: the class that its tag names, and what that class asks of its fields, told without the
decoder. Decoding one level, its entries aside, makes just that of a document. -/
namespace RecordQuery
set_option autoImplicit false

/-! ## Tags -/

namespace QueryClass

/-- Two tags that differ at most in the case of ASCII letters. -/
def SameTag (tag name : String) : Prop := tag.toList.map Char.toLower = name.toList.map Char.toLower

theorem sameTag_iff (tag name : String) : SameTag tag name ↔ foldTag tag = foldTag name :=
  String.ofList_inj.symm

theorem foldTag_of_mem_tags : ∀ p ∈ tags, foldTag p.1 = p.1 := by decide

theorem ofTag?_of_mem_tags : ∀ p ∈ tags, ofTag? p.1 = some p.2 := by decide

theorem ofTag?_eq_some (tag : String) (cls : QueryClass) :
    ofTag? tag = some cls ↔ ∃ name, (name, cls) ∈ tags ∧ SameTag tag name := by
  constructor
  · intro h
    obtain ⟨before, after, htags, _⟩ := List.lookup_eq_some_iff.mp h
    have hmem : (foldTag tag, cls) ∈ tags := by
      rw [htags]
      exact List.mem_append_right before List.mem_cons_self
    exact ⟨foldTag tag, hmem, (sameTag_iff _ _).mpr (foldTag_of_mem_tags _ hmem).symm⟩
  · rintro ⟨name, hmem, hsame⟩
    have hname : ofTag? name = some cls := ofTag?_of_mem_tags (name, cls) hmem
    rw [ofTag?] at hname ⊢
    rw [(sameTag_iff tag name).mp hsame, hname]

end QueryClass

/-! ## What the classes ask for -/

section Fields

variable (s : Settings) (fields : List (String × Json))

/-- The tag of a document names a class, and the settings admit it. -/
structure Names (cls : QueryClass) : Prop where
  tag : ∃ tag name, Json.member? "_query_class" fields = some (.string tag) ∧
    (name, cls) ∈ QueryClass.tags ∧ QueryClass.SameTag tag name
  admitted : cls.isNested = true → s.nestedGroups = true

/-- Whether paths may be paired with values: they are as many, or pairing may stop early but not at once. -/
def ShapePolicy.Admits (paths : List String) (values : List Json) : ShapePolicy → Prop
  | .reject => values.length = paths.length
  | .truncate => values ≠ []

/-- The conditions of a filter or an exclusion, told by the form in which its document writes them. A single path
takes the whole value; several paths take a value each, as far as there are both. -/
inductive ConditionsOf : ConditionForm → List Condition → Prop where
  | single (path : String) (value : Json)
      (hcondition : Json.member? "_condition" fields = some (.string path))
      (hvalue : Json.member? "_value" fields = some value) :
      ConditionsOf .plain [(path, Operand.coerceIf s.coerceGeometry value)]
  | several (paths : List String) (values : List Json)
      (hcondition : Json.member? "_condition" fields = some (.array (paths.map Json.string)))
      (hvalue : Json.member? "_value" fields = some (.array values))
      (hpaths : paths ≠ []) (hshape : s.shape.Admits paths values) :
      ConditionsOf .plain ((paths.zip values).map fun p => (p.1, Operand.coerceIf s.coerceGeometry p.2))
  | selfField (path other : String)
      (hcondition : Json.member? "_condition" fields = some (.string path))
      (hother : Json.member? "_field_to_compare" fields = some (.string other)) :
      ConditionsOf .selfField [(path, .field other)]
  | nested (outer inner : String) (value : Json)
      (hcondition : Json.member? "_condition" fields = some (.string outer))
      (hinner : Json.member? "_inner_condition" fields = some (.string inner))
      (hvalue : Json.member? "_value" fields = some value) :
      ConditionsOf .nested [(outer, .group [(inner, .literal value)])]

/-- The fields hold what the class asks for. Entries of a composite may be anything. -/
def Complete : QueryClass → Prop
  | .identity | .all | .distinct => True
  | .filter form | .exclude form => ∃ conditions, ConditionsOf s fields form conditions
  | .orderBy => ∃ entries : List String, Json.member? "_order_by" fields = some (.array (entries.map Json.string))
  | .allOf | .anyOf => ∃ entries, Json.member? "_sub_queries" fields = some (.array entries)

end Fields

/-! ## Decoding one level -/

section Level

variable (s : Settings) (cls : QueryClass) (fields : List (String × Json))

theorem documentClass_eq_ok : documentClass s fields = .ok cls ↔ Names s fields cls := by
  have hclass : ∀ c : QueryClass,
      (if c.isNested ∧ ¬s.nestedGroups then .error (.disabled c) else .ok c : Except DecodeError QueryClass) = .ok cls ↔
        c = cls ∧ (cls.isNested = true → s.nestedGroups = true) := by
    intro c
    split
    · rename_i hc
      simp only [reduceCtorEq, false_iff]
      rintro ⟨rfl, hn⟩
      exact hc.2 (hn hc.1)
    · rename_i hc
      rw [Except.ok.injEq]
      constructor
      · rintro rfl
        exact ⟨rfl, fun hn => Decidable.not_not.mp fun hs => hc ⟨hn, hs⟩⟩
      · exact And.left
  constructor
  · intro h
    rw [documentClass] at h
    split at h
    · exact absurd h nofun
    · rename_i tag htag
      split at h
      · exact absurd h nofun
      · rename_i c hc
        obtain ⟨rfl, hn⟩ := (hclass c).mp h
        obtain ⟨name, hmem, hsame⟩ := (QueryClass.ofTag?_eq_some tag c).mp hc
        exact ⟨⟨tag, name, htag, hmem, hsame⟩, hn⟩
    · exact absurd h nofun
  · rintro ⟨⟨tag, name, htag, hmem, hsame⟩, hn⟩
    have hc : QueryClass.ofTag? tag = some cls := (QueryClass.ofTag?_eq_some tag cls).mpr ⟨name, hmem, hsame⟩
    simp only [documentClass, htag, hc]
    exact (hclass cls).mpr ⟨rfl, hn⟩

theorem requireField_eq_ok (key : String) (value : Json) :
    requireField cls fields key = .ok value ↔ Json.member? key fields = some value := by
  rw [requireField]
  cases Json.member? key fields <;> simp

theorem requireString_eq_ok (key text : String) :
    requireString cls fields key = .ok text ↔ Json.member? key fields = some (.string text) := by
  rw [requireString, bind_eq_ok]
  constructor
  · rintro ⟨value, hv, h⟩
    cases value with
    | string t =>
      rw [(requireField_eq_ok cls fields key _).mp hv, Except.ok.inj h]
    | _ => exact absurd h nofun
  · intro h
    exact ⟨.string text, (requireField_eq_ok cls fields key _).mpr h, rfl⟩

theorem stringItems?_eq_some (items : List Json) (texts : List String) :
    stringItems? items = some texts ↔ items = texts.map Json.string := by
  induction items generalizing texts with
  | nil => cases texts <;> simp [stringItems?]
  | cons item items ih =>
    cases item with
    | string t =>
      simp only [stringItems?, Option.map_eq_map, Option.map_eq_some_iff, ih]
      constructor
      · rintro ⟨us, rfl, rfl⟩
        rfl
      · intro h
        cases texts with
        | nil => exact absurd h nofun
        | cons u us =>
          rw [List.map_cons, List.cons.injEq, Json.string.injEq] at h
          exact ⟨us, h.2, by rw [h.1]⟩
    | _ => cases texts <;> simp [stringItems?]

theorem orderEntries_eq_ok (entries : List String) :
    orderEntries cls fields = .ok entries ↔
      Json.member? "_order_by" fields = some (.array (entries.map Json.string)) := by
  rw [orderEntries, bind_eq_ok]
  constructor
  · rintro ⟨value, hv, h⟩
    rw [requireField_eq_ok] at hv
    cases value with
    | array items =>
      cases hi : stringItems? items with
      | none =>
        simp only [hi] at h
        exact absurd h nofun
      | some texts =>
        simp only [hi] at h
        rw [hv, (stringItems?_eq_some items texts).mp hi, Except.ok.inj h]
    | _ => exact absurd h nofun
  · intro h
    refine ⟨_, (requireField_eq_ok cls fields "_order_by" _).mpr h, ?_⟩
    simp only [(stringItems?_eq_some _ entries).mpr rfl]

theorem pairConditions_eq (paths : List String) (values : List Json) :
    pairConditions s paths values =
      (paths.zip values).map fun p => (p.1, Operand.coerceIf s.coerceGeometry p.2) := by
  rw [pairConditions, List.zip, List.map_zipWith]

theorem admits_iff (paths : List String) (values : List Json) (hpaths : paths ≠ []) :
    s.shape.Admits paths values ↔ ¬(paths.length ≠ values.length ∧ s.shape = .reject) ∧ values ≠ [] := by
  cases s.shape with
  | truncate => simp [ShapePolicy.Admits]
  | reject =>
    rw [ShapePolicy.Admits]
    constructor
    · intro hlen
      refine ⟨fun h => h.1 hlen.symm, ?_⟩
      rintro rfl
      exact hpaths (List.length_eq_zero_iff.mp hlen.symm)
    · rintro ⟨hlen, _⟩
      exact Decidable.not_not.mp fun h => hlen ⟨fun h' => h h'.symm, rfl⟩

theorem plainConditions_eq_ok (conditions : List Condition) :
    plainConditions cls fields s = .ok conditions ↔ ConditionsOf s fields .plain conditions := by
  constructor
  · intro h
    rw [plainConditions, bind_eq_ok] at h
    obtain ⟨condition, hc, h⟩ := h
    rw [bind_eq_ok] at h
    obtain ⟨value, hv, h⟩ := h
    rw [requireField_eq_ok] at hc hv
    cases condition with
    | string path =>
      rw [← Except.ok.inj h]
      exact .single path value hc hv
    | array items =>
      cases hi : stringItems? items with
      | none =>
        simp only [hi] at h
        exact absurd h nofun
      | some paths =>
        obtain rfl := (stringItems?_eq_some items paths).mp hi
        simp only [hi] at h
        split at h
        · exact absurd h nofun
        rename_i hpaths
        cases value with
        | array values =>
          simp only at h
          split at h
          · exact absurd h nofun
          rename_i hlen
          split at h
          · exact absurd h nofun
          rename_i hvalues
          rw [← Except.ok.inj h, pairConditions_eq]
          have hp : paths ≠ [] := by simpa using hpaths
          exact .several paths values hc hv hp ((admits_iff s paths values hp).mpr ⟨hlen, by simpa using hvalues⟩)
        | _ => exact absurd h nofun
    | _ => exact absurd h nofun
  · intro h
    cases h with
    | single path value hc hv =>
      rw [plainConditions, (requireField_eq_ok cls fields _ _).mpr hc, (requireField_eq_ok cls fields _ _).mpr hv]
      rfl
    | several paths values hc hv hp hs =>
      obtain ⟨hlen, hvalues⟩ := (admits_iff s paths values hp).mp hs
      rw [plainConditions, (requireField_eq_ok cls fields _ _).mpr hc, (requireField_eq_ok cls fields _ _).mpr hv]
      simp only [ok_bind, (stringItems?_eq_some _ paths).mpr rfl, List.isEmpty_iff, if_neg hp, if_neg hlen,
        if_neg hvalues, pairConditions_eq]

theorem selfFieldConditions_eq_ok (conditions : List Condition) :
    selfFieldConditions cls fields = .ok conditions ↔ ConditionsOf s fields .selfField conditions := by
  simp only [selfFieldConditions, bind_eq_ok, requireString_eq_ok, Except.ok.injEq]
  constructor
  · rintro ⟨path, hc, other, ho, rfl⟩
    exact .selfField path other hc ho
  · intro h
    cases h with
    | selfField path other hc ho => exact ⟨path, hc, other, ho, rfl⟩

theorem nestedConditions_eq_ok (conditions : List Condition) :
    nestedConditions cls fields = .ok conditions ↔ ConditionsOf s fields .nested conditions := by
  simp only [nestedConditions, bind_eq_ok, requireString_eq_ok, requireField_eq_ok, Except.ok.injEq]
  constructor
  · rintro ⟨outer, hc, inner, hi, value, hv, rfl⟩
    exact .nested outer inner value hc hi hv
  · intro h
    cases h with
    | nested outer inner value hc hi hv => exact ⟨outer, hc, inner, hi, value, hv, rfl⟩

theorem formConditions_eq_ok (form : ConditionForm) (conditions : List Condition) :
    formConditions cls fields s form = .ok conditions ↔ ConditionsOf s fields form conditions := by
  cases form with
  | plain => exact plainConditions_eq_ok s cls fields conditions
  | selfField => exact selfFieldConditions_eq_ok s cls fields conditions
  | nested => exact nestedConditions_eq_ok s cls fields conditions

end Level

/-! ## What is built of them -/

/-- What decoding makes of a document of a class, entries being decoded by themselves. -/
inductive Built (s : Settings) (fields : List (String × Json)) : QueryClass → QueryTree × List Diagnostic → Prop where
  | identity : Built s fields .identity (.identity, [])
  | all : Built s fields .all (.all, [])
  | distinct : Built s fields .distinct (.distinct, [])
  | filter {form : ConditionForm} {conditions : List Condition} (h : ConditionsOf s fields form conditions) :
      Built s fields (.filter form) (.filter form conditions, [])
  | exclude {form : ConditionForm} {conditions : List Condition} (h : ConditionsOf s fields form conditions) :
      Built s fields (.exclude form) (.exclude form conditions, [])
  | orderBy {entries : List String}
      (h : Json.member? "_order_by" fields = some (.array (entries.map Json.string))) :
      Built s fields .orderBy (.orderBy entries, [])
  | allOf {entries : List Json} (h : Json.member? "_sub_queries" fields = some (.array entries)) :
      Built s fields .allOf (.allOf (decodeEntries s 0 entries).1, (decodeEntries s 0 entries).2)
  | anyOf {entries : List Json} (h : Json.member? "_sub_queries" fields = some (.array entries)) :
      Built s fields .anyOf (.anyOf (decodeEntries s 0 entries).1, (decodeEntries s 0 entries).2)

theorem complete_iff (s : Settings) (cls : QueryClass) (fields : List (String × Json)) :
    Complete s fields cls ↔ ∃ result, Built s fields cls result := by
  constructor
  · intro hc
    cases cls with
    | identity => exact ⟨_, .identity⟩
    | all => exact ⟨_, .all⟩
    | distinct => exact ⟨_, .distinct⟩
    | filter form =>
      obtain ⟨conditions, h⟩ := hc
      exact ⟨_, .filter h⟩
    | exclude form =>
      obtain ⟨conditions, h⟩ := hc
      exact ⟨_, .exclude h⟩
    | orderBy =>
      obtain ⟨entries, h⟩ := hc
      exact ⟨_, .orderBy h⟩
    | allOf =>
      obtain ⟨entries, h⟩ := hc
      exact ⟨_, .allOf h⟩
    | anyOf =>
      obtain ⟨entries, h⟩ := hc
      exact ⟨_, .anyOf h⟩
  · rintro ⟨result, hb⟩
    cases hb with
    | identity | all | distinct => trivial
    | filter h | exclude h => exact ⟨_, h⟩
    | orderBy h => exact ⟨_, h⟩
    | allOf h | anyOf h => exact ⟨_, h⟩

theorem decodeTree_eq_ok (s : Settings) (fields : List (String × Json)) (result : QueryTree × List Diagnostic) :
    decodeTree s (.object fields) = .ok result ↔ ∃ cls, Names s fields cls ∧ Built s fields cls result := by
  rw [decodeTree, bind_eq_ok]
  refine exists_congr fun cls => and_congr (documentClass_eq_ok s cls fields) ?_
  cases cls with
  | identity | all | distinct =>
    constructor
    · intro h
      rw [← Except.ok.inj h]
      constructor
    · intro h
      cases h
      rfl
  | filter form =>
    simp only [bind_eq_ok, formConditions_eq_ok, Except.ok.injEq]
    constructor
    · rintro ⟨conditions, hc, rfl⟩
      exact .filter hc
    · intro h
      cases h with
      | filter hc => exact ⟨_, hc, rfl⟩
  | exclude form =>
    simp only [bind_eq_ok, formConditions_eq_ok, Except.ok.injEq]
    constructor
    · rintro ⟨conditions, hc, rfl⟩
      exact .exclude hc
    · intro h
      cases h with
      | exclude hc => exact ⟨_, hc, rfl⟩
  | orderBy =>
    simp only [bind_eq_ok, orderEntries_eq_ok, Except.ok.injEq]
    constructor
    · rintro ⟨entries, he, rfl⟩
      exact .orderBy he
    · intro h
      cases h with
      | orderBy he => exact ⟨_, he, rfl⟩
  | allOf =>
    simp only [bind_eq_ok, subQueries_eq_ok, Except.ok.injEq]
    constructor
    · rintro ⟨_, ⟨entries, he, rfl⟩, rfl⟩
      exact .allOf he
    · intro h
      cases h with
      | allOf he => exact ⟨_, ⟨_, he, rfl⟩, rfl⟩
  | anyOf =>
    simp only [bind_eq_ok, subQueries_eq_ok, Except.ok.injEq]
    constructor
    · rintro ⟨_, ⟨entries, he, rfl⟩, rfl⟩
      exact .anyOf he
    · intro h
      cases h with
      | anyOf he => exact ⟨_, ⟨_, he, rfl⟩, rfl⟩

theorem tryDecode_of_built (s : Settings) (fields : List (String × Json)) (cls : QueryClass) (tree : QueryTree)
    (dropped : List Diagnostic) (h : Names s fields cls) (hb : Built s fields cls (tree, dropped)) :
    tryDecode s (.object fields) = .ok tree :=
  (tryDecode_eq_ok s _ tree).mpr ⟨dropped, (decodeTree_eq_ok s fields _).mpr ⟨cls, h, hb⟩⟩

end RecordQuery
