import RecordQuery.Geometry.Reader
import RecordQuery.Proofs.Attempt
import RecordQuery.Proofs.Geometry.Canonical
import RecordQuery.Proofs.Json.Canonical

/-! Reading geometries from values with zeros of one sign. The reader takes doubles as ordinates and looks at nothing
else of them, so a value and its canonical form are both refused, or give geometries with one canonical form. -/
namespace RecordQuery.Geometry
set_option autoImplicit false

/-! ## Coordinates -/

theorem readOrdinate_canonical (j : Json) :
    AgreeUpTo Binary64.canonical (readOrdinate j.canonical) (readOrdinate j) := by
  cases j with
  | number n =>
    cases n with
    | int n => exact .refl _ _
    | double x => exact agreeUpTo_ok x.value.canonical_canonical
  | _ => exact agreeUpTo_error _ _ _

theorem readEach_canonical {α γ : Type} {v : α → γ} {item : Json → Except Mismatch α}
    (h : ∀ j, AgreeUpTo v (item j.canonical) (item j)) (j : Json) :
    AgreeUpTo (List.map v) (readEach item j.canonical) (readEach item j) := by
  cases j with
  | array items =>
    rw [Json.canonical, Json.canonicalItems_eq]
    exact agreeUpTo_mapM h items
  | _ => exact agreeUpTo_error _ _ _

theorem readPosition_canonical (j : Json) :
    AgreeUpTo canonicalPosition (readPosition j.canonical) (readPosition j) :=
  readEach_canonical readOrdinate_canonical j

theorem readCoordinates_canonical (type : GeometryType) (j : Json) :
    AgreeUpTo canonical (readCoordinates type j.canonical) (readCoordinates type j) := by
  have hpoints := readEach_canonical readPosition_canonical
  have hlines := readEach_canonical hpoints
  cases type with
  | point => exact (readPosition_canonical j).map fun _ _ => congrArg point
  | multiPoint => exact (hpoints j).map fun _ _ => congrArg multiPoint
  | lineString => exact (hpoints j).map fun _ _ => congrArg lineString
  | multiLineString => exact (hlines j).map fun _ _ => congrArg multiLineString
  | polygon => exact (hlines j).map fun _ _ => congrArg polygon
  | multiPolygon => exact (readEach_canonical hlines j).map fun _ _ => congrArg multiPolygon
  | collection => exact .refl _ _

theorem readCoordinatesMember_canonical (type : GeometryType) (ms : List (String × Json)) :
    AgreeUpTo canonical
      (match Json.member? "coordinates" (Json.canonicalMembers ms) with
        | none => .error (Mismatch.missingMember "coordinates")
        | some c => readCoordinates type c)
      (match Json.member? "coordinates" ms with
        | none => .error (Mismatch.missingMember "coordinates")
        | some c => readCoordinates type c) := by
  rw [Json.member?_canonical]
  cases Json.member? "coordinates" ms with
  | none => exact agreeUpTo_error _ _ _
  | some c => exact readCoordinates_canonical type c

/-! ## Types -/

theorem readTypeName_canonical (j : Json) : Agree (readTypeName j.canonical) (readTypeName j) := by
  cases j with
  | string name => exact .refl _
  | _ => exact .error _ _

theorem readType_canonical (j : Json) : Agree (readType j.canonical) (readType j) := by
  cases j with
  | number n =>
    cases n with
    | int n => exact .refl _
    | double x => exact .error _ _
  | string name => exact .refl _
  | _ => exact .error _ _

/-! ## Geometries -/

mutual

theorem readMember_canonical : ∀ j : Json, AgreeUpTo canonical (readMember j.canonical) (readMember j)
  | .object ms => by
    rw [Json.canonical, readMember, readMember, Json.member?_canonical]
    cases Json.member? "type" ms with
    | none => exact agreeUpTo_error _ _ _
    | some t =>
      refine (readType_canonical t).bindUpTo fun type => ?_
      split
      · exact readGeometries_canonical ms
      · exact readCoordinatesMember_canonical type ms
  | .array [] => agreeUpTo_error _ _ _
  | .array [t] => (readType_canonical t).bindUpTo fun _ => agreeUpTo_error _ _ _
  | .array (t :: body :: more) => by
    -- of what follows the coordinates only the number is looked at
    have hend : ∀ g h : Geometry, g.canonical = h.canonical → AgreeUpTo canonical
        (if (Json.canonicalItems more).isEmpty then .ok g
          else .error (Mismatch.longList (1 + (Json.canonicalItems more).length)))
        (if more.isEmpty then .ok h else .error (Mismatch.longList (1 + more.length))) := by
      intro g h hgh
      rw [Json.canonicalItems_eq, List.isEmpty_map]
      split
      · exact agreeUpTo_ok hgh
      · exact agreeUpTo_error _ _ _
    refine (readType_canonical t).bindUpTo fun type => ?_
    dsimp only
    split
    · exact (readCollection_canonical body).bind hend
    · exact (readCoordinates_canonical type body).bind hend
  | .null | .bool _ | .number _ | .string _ => agreeUpTo_error _ _ _

theorem readGeometries_canonical : ∀ ms : List (String × Json),
    AgreeUpTo canonical (readGeometries (Json.canonicalMembers ms)) (readGeometries ms)
  | [] => agreeUpTo_error _ _ _
  | (k, v) :: ms => by
    rw [Json.canonicalMembers, readGeometries, readGeometries]
    split
    · exact readCollection_canonical v
    · exact readGeometries_canonical ms

theorem readCollection_canonical : ∀ j : Json,
    AgreeUpTo canonical (readCollection j.canonical) (readCollection j)
  | .array items => by
    refine (readMembers_canonical items).map fun gs hs h => ?_
    rw [canonical, canonical, h]
  | .null | .bool _ | .number _ | .string _ | .object _ => agreeUpTo_error _ _ _

theorem readMembers_canonical : ∀ js : List Json,
    AgreeUpTo canonicalEach (readMembers (Json.canonicalItems js)) (readMembers js)
  | [] => .refl _ _
  | j :: js => by
    rw [Json.canonicalItems, readMembers, readMembers]
    refine (readMember_canonical j).bind fun g h hgh => ?_
    refine (readMembers_canonical js).bind fun gs hs hghs => agreeUpTo_ok ?_
    rw [canonicalEach, canonicalEach, hgh, hghs]

end

theorem readOuter_canonical (ms : List (String × Json)) :
    AgreeUpTo canonical (readOuter (Json.canonicalMembers ms)) (readOuter ms) := by
  rw [readOuter, readOuter, Json.member?_canonical]
  cases Json.member? "type" ms with
  | none => exact agreeUpTo_error _ _ _
  | some t =>
    refine (readTypeName_canonical t).bindUpTo fun type => ?_
    split
    · exact readGeometries_canonical ms
    · exact readCoordinatesMember_canonical type ms

theorem ofJson_canonical (j : Json) : AgreeUpTo canonical (ofJson j.canonical) (ofJson j) := by
  cases j with
  | object ms =>
    rw [Json.canonical, ofJson, ofJson]
    refine ((readOuter_canonical ms).mapError _).bind fun g h hgh => ?_
    have hcheck : g.check = h.check := by rw [← check_canonical g, hgh, check_canonical h]
    rw [hcheck]
    exact (Agree.refl _).bindUpTo fun _ => agreeUpTo_ok hgh
  | _ => exact agreeUpTo_error _ _ _

end RecordQuery.Geometry
