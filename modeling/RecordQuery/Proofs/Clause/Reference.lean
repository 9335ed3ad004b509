import RecordQuery.Proofs.Clause.Coercion
import RecordQuery.Proofs.Clause.Expansion
import RecordQuery.Proofs.Value.Canonical

/-! References to other fields. Both sides of such a comparison are read from the record and stand in the natural order
of values, as a field and a scalar literal do; geometries have no place in that order, though a literal one can be
equal to a field. -/
namespace RecordQuery
set_option autoImplicit false

open ClauseValue

/-! ## Operands -/

namespace Lookup

/-- A lookup that compares fields is equality or takes the operands that have an order. -/
theorem exact_or_ordered (l : Lookup) (hl : l.takesField = true) :
    l = exact ∨ ∀ j, l.literalOperand j = l.orderedOperand j := by
  cases l with
  | exact => exact .inl rfl
  | gt | gte | lt | lte => exact .inr fun _ => rfl
  | _ => exact absurd hl Bool.false_ne_true

theorem literalOperand_of_takesField (l : Lookup) (hl : l.takesField = true) (j : Json) (v : ClauseValue)
    (h : comparable? j = some v) : l.literalOperand j = .ok v := by
  rcases l.exact_or_ordered hl with rfl | hordered
  · exact literalOperand_exact j v h
  · rw [hordered, orderedOperand_eq, h]

theorem isObject_of_comparable? (j : Json) (v : ClauseValue) (h : comparable? j = some v) : j.isObject = false := by
  cases j with
  | object _ => exact absurd h nofun
  | _ => rfl

theorem geometryOperand_eq_ok (l : Lookup) (j : Json) (v : ClauseValue) :
    l.geometryOperand j = .ok v ↔ ∃ g, Geometry.ofJson j = .ok g ∧ v = .geometry g := by
  rw [geometryOperand]
  cases Geometry.ofJson j with
  | ok g => simp [eq_comm]
  | error e => simp

theorem geometry_of_equalOperand (j : Json) (v : ClauseValue) (hnull : j.isNull = false)
    (hscalar : comparable? j = none) (h : exact.equalOperand j = .ok v) :
    ∃ g, Geometry.ofJson j = .ok g ∧ v = .geometry g := by
  cases j with
  | object _ => exact (geometryOperand_eq_ok exact _ v).mp h
  | null => exact absurd hnull nofun
  | _ => exact absurd ((scalar_of_not_comparable? exact _ hnull hscalar).symm.trans h) nofun

/-- Beside scalars and null only geometries serve, for equality. -/
theorem geometry_of_literalOperand (l : Lookup) (hl : l.takesField = true) (j : Json) (v : ClauseValue)
    (hnull : j.isNull = false) (hscalar : comparable? j = none) (h : l.literalOperand j = .ok v) :
    l = exact ∧ ∃ g, Geometry.ofJson j = .ok g ∧ v = .geometry g := by
  rcases l.exact_or_ordered hl with rfl | hordered
  · exact ⟨rfl, geometry_of_equalOperand j v hnull hscalar h⟩
  · rw [hordered, orderedOperand_eq, hscalar] at h
    exact absurd h nofun

/-- Something missing is no geometry, so equality with one needs no test of its own. -/
theorem matchValue_exact_geometry (read : String → Value) (field : Value) (g : Geometry) :
    exact.matchValue read field (.geometry g) = Option.any (· == g) field.geometry? := by
  cases field with
  | geometry f => rfl
  | _ => rfl

end Lookup

/-! ## Values -/

theorem Value.ofJson_of_geometry (j : Json) (g : Geometry) (h : Geometry.ofJson j = .ok g) :
    Value.ofJson j = .geometry g := by
  obtain ⟨members, rfl⟩ := Geometry.object_of_ofJson j g h
  rw [Value.ofJson, h]

theorem Value.ofJson_comparable? (j : Json) (v : ClauseValue) (h : comparable? j = some v) :
    v.value? = some (Value.ofJson j) ∧ (Value.ofJson j).isMissing = false := by
  cases j with
  | string _ | number _ | bool _ =>
    rw [← Option.some.inj h]
    exact ⟨rfl, rfl⟩
  | _ => exact absurd h nofun

/-- A field stands to another as to the scalar that the other one holds. -/
theorem Lookup.matchField_ofJson (l : Lookup) (field : Value) (j : Json) (v : ClauseValue)
    (h : comparable? j = some v) : l.matchField field (Value.ofJson j) = l.matchScalar field v := by
  obtain ⟨hvalue, hmissing⟩ := Value.ofJson_comparable? j v h
  rw [matchField, matchScalar, hvalue, hmissing]
  rfl

/-- Geometries stand in no order. -/
theorem Value.compare?_geometry (a : Value) (g : Geometry) (h : a.isMissing = false) :
    a.compare? (.geometry g) = none := by
  cases a with
  | missing => exact absurd h nofun
  | _ => rfl

/-! ## Conditions -/

/-- The condition that compares a field with another by a lookup. -/
def referenceCondition (field : String) (l : Lookup) (other : String) : Condition :=
  (Text.joinPath field l.name, .field other)

theorem compileAll_referenceCondition (field : String) (hfield : field ≠ "") (l : Lookup) (hl : l.takesField = true)
    (other : String) : Clause.compileAll [referenceCondition field l other] = .ok [⟨field, l, .field other⟩] := by
  rw [Clause.compileAll_singleton, referenceCondition, Clause.compile, Clause.ofLeaf, l.ofPath_joinPath field hfield]
  dsimp only
  rw [if_pos hl]
  rfl

theorem conditionsHold_referenceCondition {R : Type} [Record R] (field : String) (hfield : field ≠ "") (l : Lookup)
    (hl : l.takesField = true) (other : String) (r : R) :
    conditionsHold [referenceCondition field l other] r =
      (!(Record.value r field).isMissing && l.matchField (Record.value r field) (Record.value r other)) := by
  rw [conditionsHold, compileAll_referenceCondition field hfield l hl]
  exact Bool.and_true _

/-! ## JSON records -/

section

variable (record : Json) (a b : String) (ha : a ≠ "") (l : Lookup) (hl : l.takesField = true) (v : Json)
  (hb : record.follow (Text.segments b.toList) = some v)

include hb in
theorem Record.value_of_follow : Record.value record b = Value.ofJson v := by
  rw [value_json, hb]
  rfl

include ha hl hb

theorem conditionsHold_reference_scalar (c : ClauseValue) (hc : comparable? v = some c) :
    conditionsHold [referenceCondition a l b] record = conditionsHold [lookupCondition a l v] record := by
  have hliteral := l.literalOperand_of_takesField hl v c hc
  rw [conditionsHold_referenceCondition a ha l hl, conditionsHold_lookupCondition a ha l v c hliteral,
    Lookup.matchValue_scalar _ _ l hl (isScalar_of_comparable? v c hc), Record.value_of_follow record b v hb,
    l.matchField_ofJson _ v c hc]

theorem conditionsHold_reference_geometry (g : Geometry) (hg : Geometry.ofJson v = .ok g) :
    conditionsHold [referenceCondition a l b] record = false := by
  rw [conditionsHold_referenceCondition a ha l hl, Record.value_of_follow record b v hb,
    Value.ofJson_of_geometry v g hg]
  cases hmissing : (Record.value record a).isMissing with
  | true => rfl
  | false =>
    rw [Lookup.matchField, Value.compare?_geometry _ g hmissing]
    rfl

/-- A field stands to another just as to the value that the other one has, except that a geometry can be equal to a
literal one but stands in no order to a field. -/
theorem conditionsHold_reference (hnull : v.isNull = false)
    (hcompile : ∃ clauses, Clause.compileAll [lookupCondition a l v] = .ok clauses) :
    Clause.compileAll [referenceCondition a l b] = .ok [⟨a, l, .field b⟩] ∧
    (v.isObject = false →
      conditionsHold [referenceCondition a l b] record = conditionsHold [lookupCondition a l v] record) ∧
    (v.isObject = true → conditionsHold [referenceCondition a l b] record = false ∧
      l = .exact ∧ ∃ g, Geometry.ofJson v = .ok g ∧
        conditionsHold [lookupCondition a l v] record =
          Option.any (· == g) (Value.geometry? (Record.value record a))) := by
  obtain ⟨clauses, hclauses⟩ := hcompile
  rw [compileAll_lookupCondition a ha] at hclauses
  obtain ⟨c, hliteral, -⟩ := (map_eq_ok _ _ _).mp hclauses
  refine ⟨compileAll_referenceCondition a ha l hl b, ?_⟩
  cases hv : comparable? v with
  | some d =>
    have hobject := Lookup.isObject_of_comparable? v d hv
    refine ⟨fun _ => conditionsHold_reference_scalar record a b ha l hl v hb d hv, fun h => ?_⟩
    exact absurd (h.symm.trans hobject) nofun
  | none =>
    obtain ⟨rfl, g, hg, rfl⟩ := l.geometry_of_literalOperand hl v c hnull hv hliteral
    have hobject : v.isObject = true := by
      obtain ⟨members, rfl⟩ := Geometry.object_of_ofJson v g hg
      rfl
    refine ⟨fun h => absurd (h.symm.trans hobject) nofun, fun _ => ?_⟩
    refine ⟨conditionsHold_reference_geometry record a b ha .exact rfl v hb g hg, rfl, g, hg, ?_⟩
    rw [conditionsHold_lookupCondition a ha .exact v _ hliteral]
    exact Lookup.matchValue_exact_geometry _ _ g

end

/-- A field that is greater than another, and than the number in it. -/
theorem conditionsHold_reference_created :
    conditionsHold [referenceCondition "modified" .gt "created"]
      (Json.object [("created", .number (.int 10)), ("modified", .number (.int 20))]) =
    conditionsHold [lookupCondition "modified" .gt (.number (.int 10))]
      (Json.object [("created", .number (.int 10)), ("modified", .number (.int 20))]) :=
  (conditionsHold_reference _ "modified" "created" (by decide) .gt rfl (.number (.int 10)) rfl rfl ⟨_, rfl⟩).2.1 rfl

/-- Without the exception it is not so: a record can have one point under two names. -/
theorem not_conditionsHold_reference :
    ¬∀ (record : Json) (a b : String) (l : Lookup) (v : Json), a ≠ "" → b ≠ "" → l.takesField = true →
      record.follow (Text.segments b.toList) = some v → v.isNull = false →
      (∃ clauses, Clause.compileAll [lookupCondition a l v] = .ok clauses) →
      conditionsHold [referenceCondition a l b] record = conditionsHold [lookupCondition a l v] record := by
  intro h
  let point := Geometry.typed .point "coordinates" (.array [.number (.int 1), .number (.int 2)])
  let record := Json.object [("home", point), ("place", point)]
  have hsame := h record "place" "home" .exact point (by decide) (by decide) rfl rfl rfl ⟨_, rfl⟩
  have hreference : conditionsHold [referenceCondition "place" .exact "home"] record = false := rfl
  have hliteral : conditionsHold [lookupCondition "place" .exact point] record = true := rfl
  exact absurd (hreference.symm.trans (hsame.trans hliteral)) Bool.false_ne_true

end RecordQuery
