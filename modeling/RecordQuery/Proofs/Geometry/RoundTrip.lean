import RecordQuery.Condition
import RecordQuery.Proofs.Geometry.Collection
import RecordQuery.Proofs.Geometry.Parts

/-! Writing geometries and reading them again. What is read is valid in all its parts; written, it has only finite
ordinates and types by name, so that it reads as the same geometry, also where a list of members or the number of a type
was read. -/
namespace RecordQuery.Geometry
set_option autoImplicit false

/-! ## Coordinates -/

theorem readOrdinate_ofBinary64 (x : Binary64) (h : x.isFinite = true) :
    readOrdinate (Json.ofBinary64 x) = .ok x := by
  rw [Json.ofBinary64, Binary64.finite?, dif_pos h]
  rfl

/-- A list whose items read back reads back. -/
theorem readEach_map {α : Type} {item : Json → Except Mismatch α} {write : α → Json} (xs : List α)
    (h : ∀ x ∈ xs, item (write x) = .ok x) : readEach item (.array (xs.map write)) = .ok xs := by
  rw [readEach]
  induction xs with
  | nil => rfl
  | cons x xs ih =>
    obtain ⟨hx, hxs⟩ := List.forall_mem_cons.mp h
    rw [List.map_cons, List.mapM_cons, hx, ih hxs]
    rfl

/-- Every ordinate of a position can be written as a number. -/
def IsWritable (p : Position) : Prop := ∀ x ∈ p, x.isFinite = true

theorem readPosition_positionJson (p : Position) (h : IsWritable p) : readPosition (positionJson p) = .ok p :=
  readEach_map p fun x hx => readOrdinate_ofBinary64 x (h x hx)

theorem readEach_positionsJson (ps : List Position) (h : ∀ p ∈ ps, IsWritable p) :
    readEach readPosition (positionsJson ps) = .ok ps :=
  readEach_map ps fun p hp => readPosition_positionJson p (h p hp)

theorem readEach_linesJson (ls : List (List Position)) (h : ∀ l ∈ ls, ∀ p ∈ l, IsWritable p) :
    readEach (readEach readPosition) (linesJson ls) = .ok ls :=
  readEach_map ls fun l hl => readEach_positionsJson l (h l hl)

theorem readEach_polygonsJson (ps : List (List (List Position))) (h : ∀ rs ∈ ps, ∀ r ∈ rs, ∀ p ∈ r, IsWritable p) :
    readEach (readEach (readEach readPosition)) (.array (ps.map linesJson)) = .ok ps :=
  readEach_map ps fun rs hrs => readEach_linesJson rs (h rs hrs)

/-! ## Geometries -/

theorem readMember_coordinates (type : GeometryType) (htype : type ≠ .collection) (c : Json) :
    readMember (typed type "coordinates" c) = readCoordinates type c := by
  cases type with
  | collection => exact absurd rfl htype
  | _ => rfl

theorem readMember_collection (js : List Json) :
    readMember (typed .collection "geometries" (.array js)) = collection <$> readMembers js := rfl

mutual

theorem readMember_toJson : ∀ g : Geometry, (∀ p, g.HasPosition p → IsWritable p) → readMember g.toJson = .ok g
  | point p, h => by
    rw [toJson, readMember_coordinates .point nofun, readCoordinates, readPosition_positionJson p (h p (.point p))]
    rfl
  | multiPoint ps, h => by
    rw [toJson, readMember_coordinates .multiPoint nofun, readCoordinates,
      readEach_positionsJson ps fun p hp => h p (.multiPoint hp)]
    rfl
  | lineString line, h => by
    rw [toJson, readMember_coordinates .lineString nofun, readCoordinates,
      readEach_positionsJson line fun p hp => h p (.lineString hp)]
    rfl
  | multiLineString lines, h => by
    rw [toJson, readMember_coordinates .multiLineString nofun, readCoordinates,
      readEach_linesJson lines fun l hl p hp => h p (.multiLineString hl hp)]
    rfl
  | polygon rings, h => by
    rw [toJson, readMember_coordinates .polygon nofun, readCoordinates,
      readEach_linesJson rings fun r hr p hp => h p (.polygon hr hp)]
    rfl
  | multiPolygon polygons, h => by
    rw [toJson, readMember_coordinates .multiPolygon nofun, readCoordinates,
      readEach_polygonsJson polygons fun rs hrs r hr p hp => h p (.multiPolygon hrs hr hp)]
    rfl
  | collection gs, h => by
    rw [toJson, readMember_collection, readMembers_membersJson gs fun g hg p hp => h p (.collection hg hp)]
    rfl

theorem readMembers_membersJson : ∀ gs : List Geometry, (∀ g ∈ gs, ∀ p, g.HasPosition p → IsWritable p) →
    readMembers (membersJson gs) = .ok gs
  | [], _ => rfl
  | g :: gs, h => by
    obtain ⟨hg, hgs⟩ := List.forall_mem_cons.mp h
    rw [membersJson, readMembers, readMember_toJson g hg, readMembers_membersJson gs hgs]
    rfl

end

theorem namesType_toJson (g : Geometry) : namesType g.toJson = true := by
  cases g <;> rfl

/-- A valid geometry reads back as it was written. -/
theorem ofJson_toJson (g : Geometry) (h : g.check = .ok ()) : ofJson g.toJson = .ok g := by
  have hwritable : ∀ p, g.HasPosition p → IsWritable p := fun p hp => ((isValid_of_check h).positions p hp).2
  exact (ofJson_eq_ok g.toJson g).mpr ⟨namesType_toJson g, readMember_toJson g hwritable, h⟩

/-- A geometry that was read is valid in every part, at any depth, and writing it gives a value that reads as the same
geometry, also as the operand of a condition. -/
theorem read_valid_and_back (j : Json) (g : Geometry) (h : ofJson j = .ok g) :
    (∀ p, g.HasPosition p → (p.length = 2 ∨ p.length = 3) ∧ ∀ x ∈ p, x.isFinite = true) ∧
    (∀ line, g.HasLine line → 2 ≤ line.length) ∧
    (∀ ring, g.HasRing ring → 4 ≤ ring.length ∧
      ∃ first last, ring.head? = some first ∧ ring.getLast? = some last ∧ (first == last) = true) ∧
    ofJson g.toJson = .ok g ∧ (g == g) = true ∧ Operand.coerce g.toJson = .geometry g := by
  have hcheck : g.check = .ok () := ((ofJson_eq_ok j g).mp h).2.2
  obtain ⟨hpositions, hlines, hrings⟩ := isValid_of_check hcheck
  have hback := ofJson_toJson g hcheck
  refine ⟨hpositions, hlines, hrings, hback, g.beq_self_of_check hcheck, ?_⟩
  rw [Operand.coerce, hback]

/-- A collection whose members are a list that numbers its type and ends a ring with the other zero, and a line. -/
def mixedMembers : Json :=
  let place (x y : Json) : Json := .array [x, y]
  let zero := Json.number (.int 0)
  let one := Json.number (.int 1)
  let minusZero := Json.ofBinary64 Binary64.negativeZero
  let ring := Json.array [place zero zero, place one zero, place one one, place minusZero zero]
  typed .collection "geometries" (.array
    [.array [.number (.int 4), .array [ring]],
      typed .lineString "coordinates" (.array [place zero one, place one one])])

theorem read_valid_and_back_mixedMembers :
    let zero := Binary64.ofInt 0
    let one := Binary64.ofInt 1
    let ring := [[zero, zero], [one, zero], [one, one], [Binary64.negativeZero, zero]]
    let g := collection [polygon [ring], lineString [[zero, one], [one, one]]]
    ofJson mixedMembers = .ok g ∧
      (∃ first last, ring.head? = some first ∧ ring.getLast? = some last ∧ (first == last) = true) ∧
      ofJson g.toJson = .ok g := by
  intro zero one ring g
  have hread : ofJson mixedMembers = .ok g := rfl
  obtain ⟨-, -, hrings, hback, -⟩ := read_valid_and_back mixedMembers g hread
  have hring : g.HasRing ring := .collection List.mem_cons_self (.polygon List.mem_cons_self)
  exact ⟨hread, (hrings ring hring).2, hback⟩

end RecordQuery.Geometry
