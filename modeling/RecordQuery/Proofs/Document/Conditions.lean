import RecordQuery.Proofs.Clause.Groups
import RecordQuery.Proofs.Document.Grammar
import RecordQuery.Proofs.RecordSet.Reachable
import RecordQuery.Proofs.QueryTree.Meaning

/-! Conditions that documents write. There is always one, and each of them compiles to one clause, so no filter keeps a
record and no exclusion drops one for want of clauses to meet. -/
namespace RecordQuery
set_option autoImplicit false

/-! ## Leaves of a written tree -/

theorem Writes.leaf_of_alone {s : Settings} {document : Json} {tree : QueryTree} (h : Writes s document tree)
    (halone : tree.leaves = [tree]) : ∀ leaf ∈ tree.leaves, ∃ part, Writes s part leaf := by
  rw [halone]
  exact List.forall_mem_singleton.mpr ⟨document, h⟩

mutual

theorem Writes.leaf {s : Settings} : ∀ {document : Json} {tree : QueryTree}, Writes s document tree →
    ∀ leaf ∈ tree.leaves, ∃ part, Writes s part leaf
  | _, _, .identity h => (Writes.identity h).leaf_of_alone (by rw [QueryTree.leaves])
  | _, _, .all h => (Writes.all h).leaf_of_alone (by rw [QueryTree.leaves])
  | _, _, .distinct h => (Writes.distinct h).leaf_of_alone (by rw [QueryTree.leaves])
  | _, _, .filter h hconditions => (Writes.filter h hconditions).leaf_of_alone (by rw [QueryTree.leaves])
  | _, _, .exclude h hconditions => (Writes.exclude h hconditions).leaf_of_alone (by rw [QueryTree.leaves])
  | _, _, .orderBy h hentries => (Writes.orderBy h hentries).leaf_of_alone (by rw [QueryTree.leaves])
  | _, _, .allOf _ _ htrees => by
    rw [QueryTree.leaves]
    exact htrees.leaf
  | _, _, .anyOf _ _ htrees => by
    rw [QueryTree.leaves]
    exact htrees.leaf

theorem WritesEach.leaf {s : Settings} : ∀ {entries : List Json} {trees : List QueryTree},
    WritesEach s entries trees → ∀ leaf ∈ QueryTree.leavesOfEach trees, ∃ part, Writes s part leaf
  | _, _, .nil, leaf, hleaf => by
    rw [QueryTree.leavesOfEach] at hleaf
    exact absurd hleaf List.not_mem_nil
  | _, _, .kept h htrees, leaf, hleaf => by
    rw [QueryTree.leavesOfEach, List.mem_append] at hleaf
    rcases hleaf with hleaf | hleaf
    · exact h.leaf leaf hleaf
    · exact htrees.leaf leaf hleaf
  | _, _, .leftOut _ htrees, leaf, hleaf => htrees.leaf leaf hleaf

end

theorem Writes.conditionsOf {s : Settings} {document : Json} {leaf : QueryTree} {conditions : List Condition}
    (h : Writes s document leaf) (hconditions : leaf.conditions? = some conditions) :
    ∃ fields form, ConditionsOf s fields form conditions := by
  cases h with
  | filter _ hc | exclude _ hc =>
    obtain rfl := Option.some.inj hconditions
    exact ⟨_, _, hc⟩
  | identity | all | distinct | orderBy | allOf | anyOf => exact absurd hconditions nofun

/-! ## The number of clauses -/

theorem Operand.not_isGroup_coerceIf (geometries : Bool) (value : Json) :
    (coerceIf geometries value).isGroup = false := by
  cases geometries with
  | false => rfl
  | true =>
    rw [coerceIf, if_pos rfl, coerce]
    cases Geometry.ofJson value <;> rfl

namespace ConditionsOf

variable {s : Settings} {fields : List (String × Json)} {form : ConditionForm} {conditions : List Condition}

theorem ne_nil (h : ConditionsOf s fields form conditions) : conditions ≠ [] := by
  cases h with
  | single | selfField | nested => exact List.cons_ne_nil _ _
  | several paths values _ _ hpaths hshape =>
    have hvalues : values ≠ [] := ((admits_iff s paths values hpaths).mp hshape).2
    cases paths with
    | nil => exact absurd rfl hpaths
    | cons path paths =>
      cases values with
      | nil => exact absurd rfl hvalues
      | cons value values => exact List.cons_ne_nil _ _

/-- A group that a document writes holds one condition, so flat conditions are as many. -/
theorem length_flatConditions (h : ConditionsOf s fields form conditions) :
    (flatConditions conditions).length = conditions.length := by
  cases h with
  | nested outer inner value => rfl
  | single path value =>
    rw [flatConditions_of_not_isGroup _ (List.forall_mem_singleton.mpr (Operand.not_isGroup_coerceIf _ value))]
  | several paths values =>
    rw [flatConditions_of_not_isGroup]
    intro c hc
    obtain ⟨pair, _, rfl⟩ := List.mem_map.mp hc
    exact Operand.not_isGroup_coerceIf _ pair.2
  | selfField path other => rw [flatConditions_of_not_isGroup _ (List.forall_mem_singleton.mpr rfl)]

theorem length_clauses (h : ConditionsOf s fields form conditions) (clauses : List Clause)
    (hcompile : Clause.compileAll conditions = .ok clauses) :
    clauses.length = conditions.length ∧ clauses ≠ [] := by
  have hlength : clauses.length = conditions.length :=
    (Clause.length_compileAll conditions clauses hcompile).trans h.length_flatConditions
  refine ⟨hlength, fun hnil => h.ne_nil ?_⟩
  rw [← List.length_eq_zero_iff, ← hlength, hnil, List.length_nil]

end ConditionsOf

theorem conditionsOf_decoded {s : Settings} {document : Json} {tree leaf : QueryTree} {conditions : List Condition}
    (h : tryDecode s document = .ok tree) (hleaf : leaf ∈ tree.leaves)
    (hconditions : leaf.conditions? = some conditions) : ∃ fields form, ConditionsOf s fields form conditions := by
  obtain ⟨part, hpart⟩ := ((writes_iff s document tree).mpr h).leaf leaf hleaf
  exact hpart.conditionsOf hconditions

/-! ## What is kept and what is dropped -/

section Rows

variable {R : Type} [Record R]

/-- A record meets some clause that conditions compile to. -/
def MeetsSome (conditions : List Condition) (r : R) : Prop :=
  ∃ clauses, Clause.compileAll conditions = .ok clauses ∧ ∃ clause ∈ clauses, clause.holds r = true

theorem meetsSome_of_meets (conditions : List Condition) (clauses : List Clause) (r : R)
    (hcompile : Clause.compileAll conditions = .ok clauses) (hne : clauses ≠ [])
    (h : RecordSet.meets clauses r = true) : MeetsSome conditions r := by
  obtain ⟨clause, hclause⟩ := List.exists_mem_of_ne_nil clauses hne
  exact ⟨clauses, hcompile, clause, hclause, List.all_eq_true.mp h clause hclause⟩

variable (form : ConditionForm) (conditions : List Condition) (q q' : RecordSet R)

theorem meetsSome_of_kept (hne : ∀ clauses, Clause.compileAll conditions = .ok clauses → clauses ≠ [])
    (h : (QueryTree.filter form conditions).apply q = .ok q') (i : Nat) (hi : i ∈ q'.rows) :
    ∃ r, q.source.records[i]? = some r ∧ MeetsSome conditions r := by
  rw [QueryTree.apply, RecordSet.filter_eq, map_eq_ok] at h
  obtain ⟨clauses, hclauses, rfl⟩ := h
  have hcompile := RecordSet.compileAll_of_compile conditions clauses hclauses
  obtain ⟨_, r, hr, hmeets⟩ := (RecordSet.mem_keep q _ i).mp hi
  exact ⟨r, hr, meetsSome_of_meets conditions clauses r hcompile (hne clauses hcompile) hmeets⟩

theorem meetsSome_of_dropped (hne : ∀ clauses, Clause.compileAll conditions = .ok clauses → clauses ≠ [])
    (h : (QueryTree.exclude form conditions).apply q = .ok q') (i : Nat) (hi : i ∈ q.rows) (hi' : i ∉ q'.rows)
    (r : R) (hr : q.source.records[i]? = some r) : MeetsSome conditions r := by
  rw [QueryTree.apply, RecordSet.exclude_eq, map_eq_ok] at h
  obtain ⟨clauses, hclauses, rfl⟩ := h
  have hcompile := RecordSet.compileAll_of_compile conditions clauses hclauses
  cases hmeets : RecordSet.meets clauses r with
  | true => exact meetsSome_of_meets conditions clauses r hcompile (hne clauses hcompile) hmeets
  | false => exact absurd ((RecordSet.mem_keep q _ i).mpr ⟨hi, r, hr, by rw [hmeets]; rfl⟩) hi'

end Rows

/-- Filters and exclusions of a decoded tree have conditions, and as many clauses as conditions where these compile. So
a filter keeps, and an exclusion drops, only records that meet a clause. -/
theorem decoded_conditions_not_vacuous {s : Settings} {document : Json} {tree : QueryTree}
    (h : tryDecode s document = .ok tree) :
    (∀ conditions ∈ tree.conditionLists, conditions ≠ [] ∧
      ∀ clauses, Clause.compileAll conditions = .ok clauses →
        clauses.length = conditions.length ∧ clauses ≠ []) ∧
    ∀ (R : Type) [Record R] (form : ConditionForm) (conditions : List Condition) (q q' : RecordSet R),
      (.filter form conditions ∈ tree.leaves → (QueryTree.filter form conditions).apply q = .ok q' →
        ∀ i ∈ q'.rows, ∃ r, q.source.records[i]? = some r ∧ MeetsSome conditions r) ∧
      (.exclude form conditions ∈ tree.leaves → (QueryTree.exclude form conditions).apply q = .ok q' →
        ∀ i ∈ q.rows, i ∉ q'.rows → ∀ r, q.source.records[i]? = some r → MeetsSome conditions r) := by
  have hleaf : ∀ (leaf : QueryTree) (conditions : List Condition), leaf ∈ tree.leaves →
      leaf.conditions? = some conditions → conditions ≠ [] ∧
        ∀ clauses, Clause.compileAll conditions = .ok clauses →
          clauses.length = conditions.length ∧ clauses ≠ [] := by
    intro leaf conditions hmem hconditions
    obtain ⟨fields, form, hc⟩ := conditionsOf_decoded h hmem hconditions
    exact ⟨hc.ne_nil, hc.length_clauses⟩
  refine ⟨fun conditions hmem => ?_, fun R _ form conditions q q' => ⟨fun hmem => ?_, fun hmem => ?_⟩⟩
  · obtain ⟨leaf, hmem, hconditions⟩ := List.mem_filterMap.mp hmem
    exact hleaf leaf conditions hmem hconditions
  · exact meetsSome_of_kept form conditions q q' fun clauses hcompile => ((hleaf _ _ hmem rfl).2 clauses hcompile).2
  · exact meetsSome_of_dropped form conditions q q' fun clauses hcompile =>
      ((hleaf _ _ hmem rfl).2 clauses hcompile).2

/-- Two paths and one value, a group of conditions, and a field that is compared with itself. -/
def postConditions : Json :=
  .object [("_query_class", .string "compositeor"), ("_sub_queries", .array [
    .object [("_condition", .array [.string "votes__gt", .string "title"]), ("_query_class", .string "filter"),
      ("_value", .array [.number (.int 5)])],
    .object [("_condition", .string "votes"), ("_inner_condition", .string "gt"),
      ("_query_class", .string "nestedexclude"), ("_value", .number (.int 5))],
    .object [("_condition", .string "title__lt"), ("_field_to_compare", .string "title"),
      ("_query_class", .string "selffieldfilter")]])]

def overFiveDirectly : List Condition := [("votes__gt", .literal (.number (.int 5)))]

def overFiveInGroup : List Condition := [("votes", .group [("gt", .literal (.number (.int 5)))])]

def postTree : QueryTree :=
  .anyOf [.filter .plain overFiveDirectly, .exclude .nested overFiveInGroup,
    .filter .selfField [("title__lt", .field "title")]]

theorem postConditions_not_vacuous :
    tryDecode { shape := .truncate } postConditions = .ok postTree ∧
    (∀ conditions ∈ [overFiveDirectly, overFiveInGroup, [("title__lt", .field "title")]], conditions ≠ [] ∧
      ∀ clauses, Clause.compileAll conditions = .ok clauses →
        clauses.length = conditions.length ∧ clauses ≠ []) ∧
    (∀ i ∈ [1], ∃ r, Post.posts.records[i]? = some r ∧ MeetsSome overFiveDirectly r) ∧
    ∀ i ∈ [0, 1], i ∉ [0] → ∀ r, Post.posts.records[i]? = some r → MeetsSome overFiveInGroup r := by
  have hdecode : tryDecode { shape := .truncate } postConditions = .ok postTree := rfl
  have hfilter : (QueryTree.filter .plain overFiveDirectly).apply Post.popularPosts =
      .ok { Post.popularPosts with rows := [1] } := rfl
  have hexclude : (QueryTree.exclude .nested overFiveInGroup).apply Post.popularPosts =
      .ok { Post.popularPosts with rows := [0] } := rfl
  obtain ⟨hcount, hrows⟩ := decoded_conditions_not_vacuous hdecode
  obtain ⟨hkept, _⟩ := hrows Post .plain overFiveDirectly _ _
  obtain ⟨_, hdropped⟩ := hrows Post .nested overFiveInGroup _ _
  exact ⟨hdecode, hcount, hkept List.mem_cons_self hfilter,
    hdropped (List.mem_cons_of_mem _ List.mem_cons_self) hexclude⟩

end RecordQuery
