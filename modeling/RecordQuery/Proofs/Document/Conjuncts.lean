import RecordQuery.Proofs.Document.Fields
import RecordQuery.Proofs.QueryTree.Conjuncts

/-! Documents with several conditions and their spelling as composites: a filter by a list of paths and values is the
conjunction of the filters by each path and value, and an exclusion the disjunction of the exclusions. -/
namespace RecordQuery
set_option autoImplicit false

/-! ## Documents -/

def conditionFields (tag : String) (condition value : Json) : List (String × Json) :=
  [("_condition", condition), ("_query_class", .string tag), ("_value", value)]

/-- The document with one path, which takes the whole value. -/
def singleDocument (tag : String) (condition : String × Json) : Json :=
  .object (conditionFields tag (.string condition.1) condition.2)

/-- The document with a list of paths and a list of values. -/
def severalDocument (tag : String) (conditions : List (String × Json)) : Json :=
  .object (conditionFields tag (.array ((conditions.map Prod.fst).map Json.string))
    (.array (conditions.map Prod.snd)))

def compositeDocument (tag : String) (entries : List Json) : Json :=
  .object [("_query_class", .string tag), ("_sub_queries", .array entries)]

/-! ## Their trees -/

section Trees

variable (s : Settings)

def coercedPair (condition : String × Json) : Condition :=
  (condition.1, Operand.coerceIf s.coerceGeometry condition.2)

theorem names_of_mem_tags (fields : List (String × Json)) (tag : String) (cls : QueryClass)
    (htag : Json.member? "_query_class" fields = some (.string tag)) (hmem : (tag, cls) ∈ QueryClass.tags)
    (hnested : cls.isNested = false) : Names s fields cls :=
  ⟨⟨tag, tag, htag, hmem, rfl⟩, fun h => absurd (hnested.symm.trans h) nofun⟩

theorem conditionsOf_single (tag : String) (condition : String × Json) :
    ConditionsOf s (conditionFields tag (.string condition.1) condition.2) .plain [coercedPair s condition] :=
  .single condition.1 condition.2 rfl rfl

theorem conditionsOf_several (tag : String) (conditions : List (String × Json)) (h : conditions ≠ []) :
    ConditionsOf s
      (conditionFields tag (.array ((conditions.map Prod.fst).map Json.string)) (.array (conditions.map Prod.snd)))
      .plain (conditions.map (coercedPair s)) := by
  have hpaths : conditions.map Prod.fst ≠ [] := fun hnil => h (List.map_eq_nil_iff.mp hnil)
  have hvalues : conditions.map Prod.snd ≠ [] := fun hnil => h (List.map_eq_nil_iff.mp hnil)
  have hshape : s.shape.Admits (conditions.map Prod.fst) (conditions.map Prod.snd) := by
    rw [admits_iff s _ _ hpaths]
    refine ⟨fun hlen => hlen.1 ?_, hvalues⟩
    rw [List.length_map, List.length_map]
  have hzip : conditions = (conditions.map Prod.fst).zip (conditions.map Prod.snd) := List.zip_of_prod rfl rfl
  have hpairs : conditions.map (coercedPair s) =
      ((conditions.map Prod.fst).zip (conditions.map Prod.snd)).map (coercedPair s) := by
    rw [← hzip]
  rw [hpairs]
  exact .several (conditions.map Prod.fst) (conditions.map Prod.snd) rfl rfl hpaths hshape

section Conditions

variable (tag : String) (cls : QueryClass) (tree : List Condition → QueryTree)

theorem tryDecode_single (condition : String × Json) (hmem : (tag, cls) ∈ QueryClass.tags)
    (hnested : cls.isNested = false)
    (hbuilt : ∀ fields cs, ConditionsOf s fields .plain cs → Built s fields cls (tree cs, [])) :
    tryDecode s (singleDocument tag condition) = .ok (tree [coercedPair s condition]) :=
  tryDecode_of_built s _ cls _ [] (names_of_mem_tags s _ tag cls rfl hmem hnested)
    (hbuilt _ _ (conditionsOf_single s tag condition))

theorem tryDecode_several (conditions : List (String × Json)) (h : conditions ≠ [])
    (hmem : (tag, cls) ∈ QueryClass.tags) (hnested : cls.isNested = false)
    (hbuilt : ∀ fields cs, ConditionsOf s fields .plain cs → Built s fields cls (tree cs, [])) :
    tryDecode s (severalDocument tag conditions) = .ok (tree (conditions.map (coercedPair s))) :=
  tryDecode_of_built s _ cls _ [] (names_of_mem_tags s _ tag cls rfl hmem hnested)
    (hbuilt _ _ (conditionsOf_several s tag conditions h))

end Conditions

theorem tryDecode_allOf (entries : List Json) :
    tryDecode s (compositeDocument "compositeand" entries) = .ok (.allOf (decodeEntries s 0 entries).1) :=
  tryDecode_of_built s _ .allOf _ _ (names_of_mem_tags s _ "compositeand" .allOf rfl (by decide) rfl) (.allOf rfl)

theorem tryDecode_anyOf (entries : List Json) :
    tryDecode s (compositeDocument "compositeor" entries) = .ok (.anyOf (decodeEntries s 0 entries).1) :=
  tryDecode_of_built s _ .anyOf _ _ (names_of_mem_tags s _ "compositeor" .anyOf rfl (by decide) rfl) (.anyOf rfl)

theorem tryDecode_filter (condition : String × Json) :
    tryDecode s (singleDocument "filter" condition) = .ok (.filter .plain [coercedPair s condition]) :=
  tryDecode_single s "filter" (.filter .plain) _ condition (by decide) rfl fun _ _ => .filter

theorem tryDecode_exclude (condition : String × Json) :
    tryDecode s (singleDocument "exclude" condition) = .ok (.exclude .plain [coercedPair s condition]) :=
  tryDecode_single s "exclude" (.exclude .plain) _ condition (by decide) rfl fun _ _ => .exclude

variable (conditions : List (String × Json))

theorem tryDecode_filters :
    tryDecode s (compositeDocument "compositeand" (conditions.map (singleDocument "filter"))) =
      .ok (.allOf (QueryTree.filtersByEach .plain (conditions.map (coercedPair s)))) := by
  have htrees := decodeEntries_map s 0 conditions (singleDocument "filter") _ (tryDecode_filter s)
  rw [tryDecode_allOf, htrees, QueryTree.filtersByEach, List.map_map]
  rfl

theorem tryDecode_exclusions :
    tryDecode s (compositeDocument "compositeor" (conditions.map (singleDocument "exclude"))) =
      .ok (.anyOf (QueryTree.exclusionsByEach .plain (conditions.map (coercedPair s)))) := by
  have htrees := decodeEntries_map s 0 conditions (singleDocument "exclude") _ (tryDecode_exclude s)
  rw [tryDecode_anyOf, htrees, QueryTree.exclusionsByEach, List.map_map]
  rfl

end Trees

/-! ## What they do -/

variable {R : Type} [Record R]

/-- A filter by a list of conditions and the conjunction of the filters by each make the same of a reachable set, or
fail both; so do an exclusion and the disjunction of the exclusions. -/
theorem conditions_one_by_one {source : Source R} {q : RecordSet R} (hq : q.Reachable source) (s : Settings)
    (conditions : List (String × Json)) (h : conditions ≠ []) :
    Agree (applyDocument s (some (severalDocument "filter" conditions)) q)
      (applyDocument s (some (compositeDocument "compositeand" (conditions.map (singleDocument "filter")))) q) ∧
    Agree (applyDocument s (some (severalDocument "exclude" conditions)) q)
      (applyDocument s (some (compositeDocument "compositeor" (conditions.map (singleDocument "exclude")))) q) := by
  have hrows : q.SoundRows := hq.sound.rows
  have hfilter := tryDecode_several s "filter" (.filter .plain) _ conditions h (by decide) rfl fun _ _ => .filter
  have hexclude := tryDecode_several s "exclude" (.exclude .plain) _ conditions h (by decide) rfl fun _ _ => .exclude
  constructor
  · rw [applyDocument_of_ok s _ _ hfilter, applyDocument_of_ok s _ _ (tryDecode_filters s conditions)]
    exact QueryTree.filter_agrees .plain (conditions.map (coercedPair s)) q hrows
  · rw [applyDocument_of_ok s _ _ hexclude, applyDocument_of_ok s _ _ (tryDecode_exclusions s conditions)]
    exact QueryTree.exclude_agrees .plain (conditions.map (coercedPair s)) q hrows

/-- A title among two, and more than five votes. -/
def popularTitle : List (String × Json) :=
  [("title__in", .array [.string "Nicola", .string "Ada"]), ("votes__gt", .number (.int 5))]

theorem popularTitle_one_by_one :
    Post.popularPosts.Reachable Post.posts ∧ popularTitle ≠ [] ∧
    applyDocument {} (some (compositeDocument "compositeand" (popularTitle.map (singleDocument "filter"))))
      Post.popularPosts = .ok { Post.popularPosts with rows := [1] } ∧
    applyDocument {} (some (compositeDocument "compositeor" (popularTitle.map (singleDocument "exclude"))))
      Post.popularPosts = .ok { Post.popularPosts with rows := [0] } := by
  have hne : popularTitle ≠ [] := by decide
  have hfilter : applyDocument {} (some (severalDocument "filter" popularTitle)) Post.popularPosts =
      .ok { Post.popularPosts with rows := [1] } := rfl
  have hexclude : applyDocument {} (some (severalDocument "exclude" popularTitle)) Post.popularPosts =
      .ok { Post.popularPosts with rows := [0] } := rfl
  obtain ⟨hand, hor⟩ := conditions_one_by_one Post.popularPosts_reachable {} popularTitle hne
  exact ⟨Post.popularPosts_reachable, hne, hand.eq_ok hfilter, hor.eq_ok hexclude⟩

end RecordQuery
