import RecordQuery.Proofs.Value.Canonical
import RecordQuery.RecordSet

/-! Clauses and equal records. A clause compares numbers and boxes by their value alone, so that records which are
equal as JSON values meet the same clauses. -/
namespace RecordQuery
set_option autoImplicit false

namespace Lookup

section Matching

variable (l : Lookup) (field second : Value)

theorem matchGeometry_canonical (operand : Geometry) :
    l.matchGeometry field.canonical operand = l.matchGeometry field operand := by
  rw [matchGeometry, matchGeometry, Value.geometry?_canonical]
  cases field.geometry? with
  | none => rfl
  | some g =>
    have hequal : (g.canonical == operand) = (g == operand) := g.equal_canonical_left operand
    simp only [Option.map_some, hequal, g.box?_canonical]
    cases g.box? <;> cases operand.box? <;> cases l <;>
      simp only [Option.map_some, Box.contains_canonical_left, Box.contains_canonical_right,
        Box.intersects_canonical_left] <;>
      rfl

theorem matchScalar_canonical (operand : ClauseValue) :
    l.matchScalar field.canonical operand = l.matchScalar field operand := by
  simp only [matchScalar, Value.compare?_canonical_left]

theorem matchField_canonical : l.matchField field.canonical second.canonical = l.matchField field second := by
  rw [matchField, Value.isMissing_canonical, Value.compare?_canonical_left, Value.compare?_canonical_right,
    ← matchField]

end Matching

variable (l : Lookup) (read : String → Value) (field : Value)

theorem matchPresent_canonical (value : ClauseValue) :
    l.matchPresent (Value.canonical ∘ read) field.canonical value = l.matchPresent read field value := by
  cases value with
  | field other => exact l.matchField_canonical field (read other)
  | geometry g => exact l.matchGeometry_canonical field g
  | pattern p => rw [matchPresent, Value.string?_canonical, matchPresent]
  | string s => simp only [matchPresent, Value.string?_canonical, matchScalar_canonical]
  | list items =>
    have hscalar : ∀ m : Lookup, m.matchScalar field.canonical = m.matchScalar field := fun m =>
      funext (m.matchScalar_canonical field)
    simp only [matchPresent, hscalar]
  | number _ | bool _ | null => simp only [matchPresent, matchScalar_canonical]

theorem matchValue_canonical (value : ClauseValue) :
    l.matchValue (Value.canonical ∘ read) field.canonical value = l.matchValue read field value := by
  simp only [matchValue, Value.isMissing_canonical, matchPresent_canonical]

end Lookup

/-! ## Equal records -/

theorem Clause.holds_canonical (c : Clause) (j : Json) : c.holds j.canonical = c.holds j := by
  have hread : Value.canonical ∘ Record.value j.canonical = Value.canonical ∘ Record.value j :=
    funext (Record.value_canonical j)
  rw [holds, ← Lookup.matchValue_canonical, hread, Record.value_canonical, Lookup.matchValue_canonical, holds]

theorem RecordSet.meets_canonical (clauses : List Clause) (j : Json) : meets clauses j.canonical = meets clauses j :=
  congrArg clauses.all (funext fun c => c.holds_canonical j)

/-- Equal records meet the same clauses. -/
theorem RecordSet.meets_congr (clauses : List Clause) {a b : Json} (h : a.canonical = b.canonical) :
    meets clauses a = meets clauses b := by
  rw [← meets_canonical clauses a, h, meets_canonical]

end RecordQuery
