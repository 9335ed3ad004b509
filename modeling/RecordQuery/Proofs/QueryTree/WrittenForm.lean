import RecordQuery.Proofs.Condition.WrittenForm
import RecordQuery.Proofs.Document.Grammar

/-! Written forms of trees. A node is written as an object that begins with its name, which is the canonical tag of its
class, so trees that documents write are told apart by their written forms, and each name in such a form stands for the
class of its node. -/
namespace RecordQuery
set_option autoImplicit false

/-! ## Equality and validity -/

namespace QueryTree

mutual

/-- Equality of trees, node by node. -/
def equal : QueryTree → QueryTree → Bool
  | identity, identity => true
  | all, all => true
  | filter form cs, filter form' ds => decide (form = form') && equalConditions cs ds
  | exclude form cs, exclude form' ds => decide (form = form') && equalConditions cs ds
  | orderBy entries, orderBy entries' => decide (entries = entries')
  | distinct, distinct => true
  | allOf ts, allOf us => equalEach ts us
  | anyOf ts, anyOf us => equalEach ts us
  | _, _ => false

def equalEach : List QueryTree → List QueryTree → Bool
  | [], [] => true
  | t :: ts, u :: us => t.equal u && equalEach ts us
  | _, _ => false

end

instance : BEq QueryTree := ⟨equal⟩

mutual

/-- Every geometry in the conditions of a tree is valid. -/
def IsValid : QueryTree → Prop
  | filter _ cs => ValidConditions cs
  | exclude _ cs => ValidConditions cs
  | allOf ts => ValidEach ts
  | anyOf ts => ValidEach ts
  | identity => True
  | all => True
  | orderBy _ => True
  | distinct => True

def ValidEach : List QueryTree → Prop
  | [] => True
  | t :: ts => t.IsValid ∧ ValidEach ts

end

end QueryTree

/-! ## Tags -/

theorem QueryClass.ofTag?_tag (cls : QueryClass) : ofTag? cls.tag = some cls := by
  cases cls with
  | filter form | exclude form => cases form <;> rfl
  | _ => rfl

theorem QueryClass.tag_inj (cls cls' : QueryClass) : cls.tag = cls'.tag ↔ cls = cls' := by
  refine ⟨fun h => ?_, congrArg tag⟩
  have hread := cls.ofTag?_tag
  rw [h, cls'.ofTag?_tag] at hread
  exact (Option.some.inj hread).symm

namespace QueryTree

/-- The name with which a tree is written is the canonical tag of its class. -/
theorem writtenName_eq (tree : QueryTree) : tree.writtenName = tree.queryClass.tag := by
  cases tree with
  | filter form _ | exclude form _ => cases form <;> rfl
  | _ => rfl

theorem get?_queryClass (tree : QueryTree) :
    tree.toJson.get? "_query_class" = some (.string tree.queryClass.tag) := by
  rw [← writtenName_eq]
  cases tree <;> rfl

/-- Trees of different classes are told apart by their names alone. -/
theorem queryClass_of_beq (t u : QueryTree) (h : (t.toJson == u.toJson) = true) : t.queryClass = u.queryClass := by
  rw [Json.beq_iff] at h
  have htag := congrArg (Json.get? "_query_class") h
  rw [Json.get?_canonical, Json.get?_canonical, get?_queryClass, get?_queryClass] at htag
  exact (QueryClass.tag_inj _ _).mp (Json.string.inj (Option.some.inj htag))

theorem toJson_beq_of_queryClass_ne (t u : QueryTree) (h : t.queryClass ≠ u.queryClass) :
    (t.toJson == u.toJson) = false :=
  Bool.eq_false_iff.mpr fun hbeq => h (queryClass_of_beq t u hbeq)

theorem queryClass_of_toJson (t u : QueryTree) (h : t.toJson = u.toJson) : t.queryClass = u.queryClass :=
  queryClass_of_beq t u (by rw [h, Json.beq_iff])

/-! ## Written trees -/

theorem equalItems_strings (entries entries' : List String) :
    Json.equalItems (entries.map Json.string) (entries'.map Json.string) = decide (entries = entries') := by
  induction entries generalizing entries' with
  | nil => cases entries' <;> rfl
  | cons s entries ih =>
    cases entries' with
    | nil => rfl
    | cons t entries' =>
      rw [List.map_cons, List.map_cons, Json.equalItems, ih, Json.equal]
      simp [List.cons.injEq]

mutual

theorem toJson_beq : ∀ t u : QueryTree, t.IsValid → u.IsValid → (t.toJson == u.toJson) = (t == u)
  | identity, u, _, _ => by
    cases u with
    | identity => rfl
    | _ => exact toJson_beq_of_queryClass_ne _ _ nofun
  | all, u, _, _ => by
    cases u with
    | all => rfl
    | _ => exact toJson_beq_of_queryClass_ne _ _ nofun
  | distinct, u, _, _ => by
    cases u with
    | distinct => rfl
    | _ => exact toJson_beq_of_queryClass_ne _ _ nofun
  | filter form cs, u, ht, hu => by
    cases u with
    | filter form' ds =>
      refine (pairJson_beq _ _ _ _ _ _).trans ?_
      simp only [string_beq, writtenName_eq, queryClass, QueryClass.tag_inj, QueryClass.filter.injEq]
      exact congrArg (decide (form = form') && ·) (conditionsJson_beq cs ds ht hu)
    | _ => exact toJson_beq_of_queryClass_ne _ _ nofun
  | exclude form cs, u, ht, hu => by
    cases u with
    | exclude form' ds =>
      refine (pairJson_beq _ _ _ _ _ _).trans ?_
      simp only [string_beq, writtenName_eq, queryClass, QueryClass.tag_inj, QueryClass.exclude.injEq]
      exact congrArg (decide (form = form') && ·) (conditionsJson_beq cs ds ht hu)
    | _ => exact toJson_beq_of_queryClass_ne _ _ nofun
  | orderBy entries, u, _, _ => by
    cases u with
    | orderBy entries' => exact (tagged_beq _ _ _ _ _).trans (equalItems_strings entries entries')
    | _ => exact toJson_beq_of_queryClass_ne _ _ nofun
  | allOf ts, u, ht, hu => by
    cases u with
    | allOf us => exact (tagged_beq _ _ _ _ _).trans (childrenJson_beq ts us ht hu)
    | _ => exact toJson_beq_of_queryClass_ne _ _ nofun
  | anyOf ts, u, ht, hu => by
    cases u with
    | anyOf us => exact (tagged_beq _ _ _ _ _).trans (childrenJson_beq ts us ht hu)
    | _ => exact toJson_beq_of_queryClass_ne _ _ nofun

theorem childrenJson_beq : ∀ ts us : List QueryTree, ValidEach ts → ValidEach us →
    Json.equalItems (childrenJson ts) (childrenJson us) = equalEach ts us
  | [], us, _, _ => by cases us <;> rfl
  | t :: ts, us, hts, hus => by
    cases us with
    | nil => rfl
    | cons u us =>
      rw [childrenJson, childrenJson, Json.equalItems, equalEach, childrenJson_beq ts us hts.2 hus.2]
      exact congrArg (· && equalEach ts us) (t.toJson_beq u hts.1 hus.1)

end

mutual

theorem toJson_inj : ∀ t u : QueryTree, t.IsValid → u.IsValid → t.toJson = u.toJson → t = u
  | identity, u, _, _, h => by
    cases u with
    | identity => rfl
    | _ => exact absurd (queryClass_of_toJson _ _ h) nofun
  | all, u, _, _, h => by
    cases u with
    | all => rfl
    | _ => exact absurd (queryClass_of_toJson _ _ h) nofun
  | distinct, u, _, _, h => by
    cases u with
    | distinct => rfl
    | _ => exact absurd (queryClass_of_toJson _ _ h) nofun
  | filter form cs, u, ht, hu, h => by
    cases u with
    | filter form' ds =>
      have hform := QueryClass.filter.inj (queryClass_of_toJson _ _ h)
      rw [hform, conditionsJson_inj cs ds ht hu (Json.array.inj (pairJson_inj h).2)]
    | _ => exact absurd (queryClass_of_toJson _ _ h) nofun
  | exclude form cs, u, ht, hu, h => by
    cases u with
    | exclude form' ds =>
      have hform := QueryClass.exclude.inj (queryClass_of_toJson _ _ h)
      rw [hform, conditionsJson_inj cs ds ht hu (Json.array.inj (pairJson_inj h).2)]
    | _ => exact absurd (queryClass_of_toJson _ _ h) nofun
  | orderBy entries, u, _, _, h => by
    cases u with
    | orderBy entries' =>
      have hentries := Json.array.inj (pairJson_inj h).2
      exact congrArg orderBy (List.map_injective_iff.mpr (fun _ _ => Json.string.inj) hentries)
    | _ => exact absurd (queryClass_of_toJson _ _ h) nofun
  | allOf ts, u, ht, hu, h => by
    cases u with
    | allOf us => exact congrArg allOf (childrenJson_inj ts us ht hu (Json.array.inj (pairJson_inj h).2))
    | _ => exact absurd (queryClass_of_toJson _ _ h) nofun
  | anyOf ts, u, ht, hu, h => by
    cases u with
    | anyOf us => exact congrArg anyOf (childrenJson_inj ts us ht hu (Json.array.inj (pairJson_inj h).2))
    | _ => exact absurd (queryClass_of_toJson _ _ h) nofun

theorem childrenJson_inj : ∀ ts us : List QueryTree, ValidEach ts → ValidEach us →
    childrenJson ts = childrenJson us → ts = us
  | [], [], _, _, _ => rfl
  | [], _ :: _, _, _, h => absurd h nofun
  | _ :: _, [], _, _, h => absurd h nofun
  | t :: ts, u :: us, hts, hus, h => by
    obtain ⟨htu, hrest⟩ := List.cons.inj h
    rw [t.toJson_inj u hts.1 hus.1 htu, childrenJson_inj ts us hts.2 hus.2 hrest]

end

/-! ## Nodes -/

/-- The node that indices lead to, each of them choosing among the children of the one before. -/
def nodeAt? : QueryTree → List Nat → Option QueryTree
  | tree, [] => some tree
  | tree, i :: path => do
    let child ← tree.children[i]?
    child.nodeAt? path

end QueryTree

namespace Json

/-- A child among those that a written node lists. -/
def childAt? (written : Json) (i : Nat) : Option Json := do
  let children ← (written.get? "children").bind array?
  children[i]?

/-- The written node that indices lead to. -/
def nodeAt? : Json → List Nat → Option Json
  | written, [] => some written
  | written, i :: path => do
    let child ← written.childAt? i
    child.nodeAt? path

end Json

namespace QueryTree

theorem childrenJson_eq (ts : List QueryTree) : childrenJson ts = ts.map toJson := by
  induction ts with
  | nil => rfl
  | cons t ts ih => rw [childrenJson, ih, List.map_cons]

theorem childAt?_toJson (tree : QueryTree) (i : Nat) : tree.toJson.childAt? i = tree.children[i]?.map toJson := by
  rw [← List.getElem?_map, ← childrenJson_eq]
  cases tree <;> rfl

theorem nodeAt?_toJson (tree : QueryTree) (path : List Nat) :
    tree.toJson.nodeAt? path = (tree.nodeAt? path).map toJson := by
  induction path generalizing tree with
  | nil => rfl
  | cons i path ih =>
    rw [nodeAt?, Json.nodeAt?, childAt?_toJson]
    cases tree.children[i]? with
    | none => rfl
    | some child => exact ih child

end QueryTree

/-! ## Decoded trees -/

theorem ConditionsOf.valid {s : Settings} {fields : List (String × Json)} {form : ConditionForm}
    {conditions : List Condition} (h : ConditionsOf s fields form conditions) : ValidConditions conditions := by
  cases h with
  | single path value => exact ⟨Operand.isValid_coerceIf _ value, trivial⟩
  | several paths values =>
    rw [validConditions_iff, List.forall_mem_map]
    exact fun pair _ => Operand.isValid_coerceIf _ pair.2
  | selfField => exact ⟨trivial, trivial⟩
  | nested => exact ⟨⟨trivial, trivial⟩, trivial⟩

mutual

theorem Writes.isValid {s : Settings} : ∀ {document : Json} {tree : QueryTree}, Writes s document tree → tree.IsValid
  | _, _, .identity _ => trivial
  | _, _, .all _ => trivial
  | _, _, .distinct _ => trivial
  | _, _, .filter _ hconditions => hconditions.valid
  | _, _, .exclude _ hconditions => hconditions.valid
  | _, _, .orderBy _ _ => trivial
  | _, _, .allOf _ _ htrees => htrees.valid
  | _, _, .anyOf _ _ htrees => htrees.valid

theorem WritesEach.valid {s : Settings} : ∀ {entries : List Json} {trees : List QueryTree},
    WritesEach s entries trees → QueryTree.ValidEach trees
  | _, _, .nil => trivial
  | _, _, .kept h htrees => ⟨h.isValid, htrees.valid⟩
  | _, _, .leftOut _ htrees => htrees.valid

end

theorem isValid_decoded {s : Settings} {document : Json} {tree : QueryTree} (h : tryDecode s document = .ok tree) :
    tree.IsValid :=
  ((writes_iff s document tree).mpr h).isValid

/-- Decoded trees that are written in the same way are the same, and they are equal just where their written forms are.
At every node of such a form stands the canonical tag of the node's class. -/
theorem written_forms_faithful {s s' : Settings} {document document' : Json} {tree tree' : QueryTree}
    (h : tryDecode s document = .ok tree) (h' : tryDecode s' document' = .ok tree') :
    (tree.toJson = tree'.toJson → tree = tree') ∧
    (tree.toJson == tree'.toJson) = (tree == tree') ∧
    ∀ path node, tree.nodeAt? path = some node →
      tree.toJson.nodeAt? path = some node.toJson ∧
      node.toJson.get? "_query_class" = some (.string node.queryClass.tag) ∧
      QueryClass.ofTag? node.queryClass.tag = some node.queryClass := by
  have hvalid := isValid_decoded h
  have hvalid' := isValid_decoded h'
  refine ⟨tree.toJson_inj tree' hvalid hvalid', tree.toJson_beq tree' hvalid hvalid', fun path node hnode => ?_⟩
  refine ⟨?_, node.get?_queryClass, QueryClass.ofTag?_tag _⟩
  rw [QueryTree.nodeAt?_toJson, hnode]
  rfl

/-- A group of conditions, and a point as it is written. -/
def placesByAda : Json :=
  .object [("_query_class", .string "OrQuery"), ("_sub_queries", .array [
    .object [("_condition", .string "author"), ("_inner_condition", .string "name"),
      ("_query_class", .string "queryFilter"), ("_value", .string "Ada")],
    .object [("_condition", .string "place"), ("_query_class", .string "filter"),
      ("_value", (Geometry.point [.ofInt 1, .ofInt 2]).toJson)]])]

def byAda : QueryTree := .filter .nested [("author", .group [("name", .literal (.string "Ada"))])]

/-- The point is told from the value that it is written as. -/
theorem written_forms_faithful_point :
    let point := Geometry.point [.ofInt 1, .ofInt 2]
    let tree := QueryTree.anyOf [byAda, .filter .plain [("place", .geometry point)]]
    let raw := QueryTree.anyOf [byAda, .filter .plain [("place", .literal point.toJson)]]
    tryDecode {} placesByAda = .ok tree ∧ tryDecode { coerceGeometry := false } placesByAda = .ok raw ∧
      tree.toJson ≠ raw.toJson ∧ (tree.toJson == raw.toJson) = false ∧
      tree.toJson.nodeAt? [0] = some byAda.toJson ∧
      byAda.toJson.get? "_query_class" = some (.string "nestedfilter") := by
  intro point tree raw
  have htree : tryDecode {} placesByAda = .ok tree := rfl
  have hraw : tryDecode { coerceGeometry := false } placesByAda = .ok raw := rfl
  obtain ⟨hsame, hequal, hnodes⟩ := written_forms_faithful htree hraw
  obtain ⟨hnode, htag, -⟩ := hnodes [0] byAda rfl
  have hdiffer : (tree == raw) = false := rfl
  -- were the two trees the same, one tree would be unequal to itself
  refine ⟨htree, hraw, fun h => ?_, hequal.trans hdiffer, hnode, htag⟩
  have hself : (tree == tree) = false := by rwa [← hsame h] at hdiffer
  exact Bool.noConfusion hself

end RecordQuery
