import RecordQuery.Proofs.Geometry.Reading
import RecordQuery.Record
import RecordQuery.Value.Basic

/-! Values of fields with zeros of one sign. Equal JSON records have fields with one canonical value, whether they
are numbers, geometries or neither. -/
namespace RecordQuery
set_option autoImplicit false

namespace Value

def canonical : Value → Value
  | number n => number n.canonical
  | geometry g => geometry g.canonical
  | v => v

section Observations

variable (v w : Value)

@[simp] theorem isMissing_canonical : v.canonical.isMissing = v.isMissing := by
  cases v <;> rfl

@[simp] theorem string?_canonical : v.canonical.string? = v.string? := by
  cases v <;> rfl

theorem geometry?_canonical : v.canonical.geometry? = v.geometry?.map Geometry.canonical := by
  cases v <;> rfl

@[simp] theorem compare?_canonical_left : v.canonical.compare? w = v.compare? w := by
  cases v with
  | number m =>
    cases w with
    | number n => exact m.compare?_canonical_left n
    | _ => rfl
  | _ => cases w <;> rfl

@[simp] theorem compare?_canonical_right : v.compare? w.canonical = v.compare? w := by
  cases w with
  | number n =>
    cases v with
    | number m => exact m.compare?_canonical_right n
    | _ => rfl
  | _ => cases v <;> rfl

end Observations

/-! ## Values of JSON -/

theorem ofJson_canonical (j : Json) : (ofJson j.canonical).canonical = (ofJson j).canonical := by
  cases j with
  | number n =>
    cases n with
    | int n => rfl
    | double x => exact congrArg (fun y => number (.float y)) x.value.canonical_canonical
  | object ms =>
    have hread := Geometry.ofJson_canonical (.object ms)
    rw [Json.canonical] at hread ⊢
    rw [ofJson, ofJson]
    obtain ⟨g, h, hg, hh, hgh⟩ | ⟨e, f, he, hf⟩ := hread.cases
    · rw [hg, hh]
      exact congrArg geometry hgh
    · rw [he, hf]
  | _ => rfl

end Value

/-! ## Fields of JSON records -/

theorem Json.follow_canonical (j : Json) (keys : List (List Char)) :
    j.canonical.follow keys = (j.follow keys).map canonical := by
  induction keys generalizing j with
  | nil => rfl
  | cons key keys ih =>
    rw [follow, follow, get?_canonical]
    cases j.get? (String.ofList key) with
    | none => rfl
    | some next => exact ih next

theorem Record.value_json (j : Json) (path : String) :
    Record.value j path = ((j.follow (Text.segments path.toList)).map Value.ofJson).getD .missing := rfl

theorem Record.value_canonical (j : Json) (path : String) :
    (Record.value j.canonical path).canonical = (Record.value j path).canonical := by
  rw [value_json, value_json, Json.follow_canonical]
  cases j.follow (Text.segments path.toList) with
  | none => rfl
  | some field => exact Value.ofJson_canonical field

end RecordQuery
