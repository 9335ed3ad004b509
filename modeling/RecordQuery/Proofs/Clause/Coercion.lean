import RecordQuery.Proofs.Attempt
import RecordQuery.RecordSet

/-! Coerced literals in conditions. A literal that reads as a geometry compiles to the same clause whether it is
coerced before or read by the lookup: lookups that compare geometries read it themselves, and all others refuse
either form, though with different errors. -/
namespace RecordQuery
set_option autoImplicit false

namespace Operand

/-- The operand with a literal coerced, where geometries are wanted; no other operand changes. -/
def coerceLiteral (geometries : Bool) : Operand → Operand
  | literal value => coerceIf geometries value
  | geometry g => geometry g
  | field path => field path
  | group conditions => group conditions

end Operand

/-- Conditions with their literals coerced. Those inside a group stay as they are. -/
def coerceConditions (geometries : Bool) (conditions : List Condition) : List Condition :=
  conditions.map fun c => (c.1, c.2.coerceLiteral geometries)

theorem Geometry.object_of_ofJson (value : Json) (g : Geometry) (h : ofJson value = .ok g) :
    ∃ members, value = .object members := by
  cases value with
  | object members => exact ⟨members, rfl⟩
  | _ => exact absurd h nofun

namespace Lookup

theorem geometryOperand_of_ofJson (l : Lookup) (value : Json) (g : Geometry) (h : Geometry.ofJson value = .ok g) :
    l.geometryOperand value = .ok (.geometry g) := by
  rw [geometryOperand, h]

/-- Only the lookups that take a geometry take an object that reads as one. -/
theorem literalOperand_of_ofJson (l : Lookup) (value : Json) (g : Geometry) (e : QueryError)
    (h : Geometry.ofJson value = .ok g) :
    Agree (if l.isForBoxes || l == .exact then .ok (.geometry g) else .error e) (l.literalOperand value) := by
  obtain ⟨members, rfl⟩ := Geometry.object_of_ofJson value g h
  have hg := geometryOperand_of_ofJson l (.object members) g h
  cases l with
  | exact | boxContains | boxOverlaps | contained =>
    -- the lookup reads the same geometry itself
    change Agree (.ok (.geometry g)) (geometryOperand _ (.object members))
    rw [hg]
    exact .ok _
  | _ => exact .error _ _

end Lookup

namespace Clause

theorem ofLeaf_geometry (path : String) (g : Geometry) :
    ofLeaf path (.geometry g) =
      (if (Lookup.ofPath path).2.isForBoxes || (Lookup.ofPath path).2 == .exact then .ok (.geometry g)
        else .error (.unsupportedOperand (Lookup.ofPath path).2 (Operand.geometry g).kind)) >>=
      fun v => .ok (mk (Lookup.ofPath path).1 (Lookup.ofPath path).2 v) := by
  unfold ofLeaf
  dsimp only
  split
  · rfl
  · rfl

theorem ofLeaf_coerce (path : String) (value : Json) :
    Agree (ofLeaf path (Operand.coerce value)) (ofLeaf path (.literal value)) := by
  rw [Operand.coerce]
  cases h : Geometry.ofJson value with
  | error e => exact Agree.refl _
  | ok g =>
    dsimp only
    rw [ofLeaf_geometry]
    exact (Lookup.literalOperand_of_ofJson _ value g _ h).bind fun v => Agree.refl _

theorem compile_coerce (path : String) (value : Json) :
    compile path (Operand.coerce value) = ofLeaf path (Operand.coerce value) >>= fun c => .ok [c] := by
  rw [Operand.coerce]
  cases Geometry.ofJson value with
  | error e => rw [compile]
  | ok g => rw [compile]

theorem compile_coerceLiteral (geometries : Bool) (path : String) (operand : Operand) :
    Agree (compile path (operand.coerceLiteral geometries)) (compile path operand) := by
  cases operand with
  | literal value =>
    cases geometries with
    | false => exact Agree.refl _
    | true =>
      rw [Operand.coerceLiteral, Operand.coerceIf, if_pos rfl, compile_coerce, compile]
      exact (ofLeaf_coerce path value).bind fun c => Agree.refl (.ok [c])
  | geometry g => exact Agree.refl _
  | field other => exact Agree.refl _
  | group conditions => exact Agree.refl _

theorem compileAll_coerceConditions (geometries : Bool) (conditions : List Condition) :
    Agree (compileAll (coerceConditions geometries conditions)) (compileAll conditions) := by
  induction conditions with
  | nil => exact Agree.refl _
  | cons condition conditions ih =>
    rw [coerceConditions, List.map_cons, compileAll, compileAll]
    exact (compile_coerceLiteral geometries condition.1 condition.2).bind fun first =>
      ih.bind fun rest => Agree.refl _

end Clause

theorem RecordSet.compile_coerceConditions (R : Type) [Record R] (geometries : Bool) (conditions : List Condition) :
    Agree (compile R (coerceConditions geometries conditions)) (compile R conditions) :=
  (Clause.compileAll_coerceConditions geometries conditions).bind fun _ => Agree.refl _

end RecordQuery
