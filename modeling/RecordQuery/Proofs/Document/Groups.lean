import RecordQuery.Proofs.Clause.Groups
import RecordQuery.Proofs.Document.Coercion
import RecordQuery.Proofs.Document.Conjuncts

/-! Documents with a group of one condition, and their spelling with one path. The value in a group stays as it is
while that of a plain condition is coerced, and still the two make the same of every set of records. -/
namespace RecordQuery
set_option autoImplicit false

/-! ## Documents -/

/-- The document with a path, a path below it, and a value. -/
def nestedDocument (tag outer inner : String) (value : Json) : Json :=
  .object [("_condition", .string outer), ("_inner_condition", .string inner), ("_query_class", .string tag),
    ("_value", value)]

def groupCondition (outer inner : String) (value : Json) : Condition := (outer, .group [(inner, .literal value)])

section Trees

variable (s : Settings) (outer inner : String) (value : Json)

theorem tryDecode_nested (tag : String) (cls : QueryClass) (tree : List Condition → QueryTree)
    (hmem : (tag, cls) ∈ QueryClass.tags) (hgroups : s.nestedGroups = true)
    (hbuilt : ∀ fields cs, ConditionsOf s fields .nested cs → Built s fields cls (tree cs, [])) :
    tryDecode s (nestedDocument tag outer inner value) = .ok (tree [groupCondition outer inner value]) :=
  tryDecode_of_built s _ cls _ [] ⟨⟨tag, tag, rfl, hmem, rfl⟩, fun _ => hgroups⟩
    (hbuilt _ _ (.nested outer inner value rfl rfl rfl))

theorem tryDecode_nestedFilter (hgroups : s.nestedGroups = true) :
    tryDecode s (nestedDocument "nestedfilter" outer inner value) =
      .ok (.filter .nested [groupCondition outer inner value]) :=
  tryDecode_nested s outer inner value "nestedfilter" (.filter .nested) _ (by decide) hgroups fun _ _ => .filter

theorem tryDecode_nestedExclude (hgroups : s.nestedGroups = true) :
    tryDecode s (nestedDocument "nestedexclude" outer inner value) =
      .ok (.exclude .nested [groupCondition outer inner value]) :=
  tryDecode_nested s outer inner value "nestedexclude" (.exclude .nested) _ (by decide) hgroups fun _ _ => .exclude

end Trees

/-! ## Compiling -/

theorem compileAll_groupCondition (outer inner : String) (value : Json) :
    Clause.compileAll [groupCondition outer inner value] =
      Clause.compileAll [(Text.joinPath outer inner, .literal value)] := by
  have hflat : flatConditions [groupCondition outer inner value] =
      [("__".intercalate [outer, inner], .literal value)] := rfl
  have hpath : "__".intercalate [outer, inner] = Text.joinPath outer inner := by
    rw [String.intercalate_cons_cons, String.intercalate_singleton, Text.joinPath]
  rw [← Clause.compileAll_flatConditions, hflat, hpath]

theorem compile_groupCondition (R : Type) [Record R] (s : Settings) (outer inner : String) (value : Json) :
    Agree (RecordSet.compile R [groupCondition outer inner value])
      (RecordSet.compile R [coercedPair s (Text.joinPath outer inner, value)]) := by
  have hraw : RecordSet.compile R [groupCondition outer inner value] =
      RecordSet.compile R [(Text.joinPath outer inner, .literal value)] := by
    rw [RecordSet.compile, RecordSet.compile, compileAll_groupCondition]
  rw [hraw]
  exact (RecordSet.compile_coerceConditions R s.coerceGeometry _).symm

/-! ## What they do -/

/-- Conditions in groups compile as the flat conditions do, which have none of the groups left. So a document with a
path below another makes the same of every set as the one with the joined path, or fails as that does. -/
theorem groups_are_prefixes (R : Type) [Record R] :
    (∀ conditions : List Condition,
      Clause.compileAll conditions = Clause.compileAll (flatConditions conditions) ∧
      ∀ c ∈ flatConditions conditions, c.2.isGroup = false) ∧
    ∀ s : Settings, s.nestedGroups = true → ∀ (outer inner : String) (value : Json) (q : RecordSet R),
      Agree (applyDocument s (some (nestedDocument "nestedfilter" outer inner value)) q)
        (applyDocument s (some (singleDocument "filter" (Text.joinPath outer inner, value))) q) ∧
      Agree (applyDocument s (some (nestedDocument "nestedexclude" outer inner value)) q)
        (applyDocument s (some (singleDocument "exclude" (Text.joinPath outer inner, value))) q) := by
  refine ⟨fun conditions => ⟨(Clause.compileAll_flatConditions conditions).symm,
    not_isGroup_of_mem_flatConditions conditions⟩, fun s hgroups outer inner value q => ?_⟩
  have hcompile := compile_groupCondition R s outer inner value
  constructor
  · rw [applyDocument_of_ok s _ _ (tryDecode_nestedFilter s outer inner value hgroups),
      applyDocument_of_ok s _ _ (tryDecode_filter s _), QueryTree.apply, QueryTree.apply, RecordSet.filter_eq,
      RecordSet.filter_eq]
    exact hcompile.map _
  · rw [applyDocument_of_ok s _ _ (tryDecode_nestedExclude s outer inner value hgroups),
      applyDocument_of_ok s _ _ (tryDecode_exclude s _), QueryTree.apply, QueryTree.apply, RecordSet.exclude_eq,
      RecordSet.exclude_eq]
    exact hcompile.map _

/-- Conditions on an author and their books, with an empty group between. -/
def authorConditions : List Condition :=
  [("author", .group [
      ("name__iexact", .literal (.string "Ada")),
      ("notes", .group []),
      ("books", .group [("votes", .group [("gt", .field "author__votes")])])]),
    ("title", .literal (.string "Nicola"))]

theorem authorConditions_prefixes :
    (Clause.compileAll authorConditions = Clause.compileAll
      [("author__name__iexact", .literal (.string "Ada")), ("author__books__votes__gt", .field "author__votes"),
        ("title", .literal (.string "Nicola"))] ∧
      ∀ c ∈ flatConditions authorConditions, c.2.isGroup = false) ∧
    ({} : Settings).nestedGroups = true ∧
    applyDocument {} (some (nestedDocument "nestedfilter" "votes" "gt" (.number (.int 5)))) Post.popularPosts =
      .ok { Post.popularPosts with rows := [1] } ∧
    applyDocument {} (some (nestedDocument "nestedexclude" "votes" "gt" (.number (.int 5)))) Post.popularPosts =
      .ok { Post.popularPosts with rows := [0] } := by
  obtain ⟨hflat, hdocuments⟩ := groups_are_prefixes Post
  obtain ⟨hfilter, hexclude⟩ := hdocuments {} rfl "votes" "gt" (.number (.int 5)) Post.popularPosts
  exact ⟨hflat authorConditions, rfl, hfilter.symm.eq_ok rfl, hexclude.symm.eq_ok rfl⟩

end RecordQuery
