import RecordQuery.Proofs.Geometry.Validity

/-! Parts of geometries: positions, lines and rings, as deep in collections as they may stand. The check of a geometry
reaches all of them, so every part of a valid one is well made. -/
namespace RecordQuery.Geometry
set_option autoImplicit false

/-! ## Parts -/

/-- A position stands somewhere in a geometry. -/
inductive HasPosition : Geometry → Position → Prop where
  | point (p : Position) : HasPosition (point p) p
  | multiPoint {ps : List Position} {p : Position} (h : p ∈ ps) : HasPosition (multiPoint ps) p
  | lineString {line : List Position} {p : Position} (h : p ∈ line) : HasPosition (lineString line) p
  | multiLineString {lines : List (List Position)} {line : List Position} {p : Position} (hline : line ∈ lines)
    (h : p ∈ line) : HasPosition (multiLineString lines) p
  | polygon {rings : List (List Position)} {ring : List Position} {p : Position} (hring : ring ∈ rings)
    (h : p ∈ ring) : HasPosition (polygon rings) p
  | multiPolygon {polygons : List (List (List Position))} {rings : List (List Position)} {ring : List Position}
    {p : Position} (hrings : rings ∈ polygons) (hring : ring ∈ rings) (h : p ∈ ring) :
    HasPosition (multiPolygon polygons) p
  | collection {gs : List Geometry} {g : Geometry} {p : Position} (hg : g ∈ gs) (h : HasPosition g p) :
    HasPosition (collection gs) p

/-- A line is one of those that a geometry consists of. -/
inductive HasLine : Geometry → List Position → Prop where
  | lineString (line : List Position) : HasLine (lineString line) line
  | multiLineString {lines : List (List Position)} {line : List Position} (h : line ∈ lines) :
    HasLine (multiLineString lines) line
  | collection {gs : List Geometry} {g : Geometry} {line : List Position} (hg : g ∈ gs) (h : HasLine g line) :
    HasLine (collection gs) line

/-- A ring bounds one of the polygons in a geometry. -/
inductive HasRing : Geometry → List Position → Prop where
  | polygon {rings : List (List Position)} {ring : List Position} (h : ring ∈ rings) : HasRing (polygon rings) ring
  | multiPolygon {polygons : List (List (List Position))} {rings : List (List Position)} {ring : List Position}
    (hrings : rings ∈ polygons) (h : ring ∈ rings) : HasRing (multiPolygon polygons) ring
  | collection {gs : List Geometry} {g : Geometry} {ring : List Position} (hg : g ∈ gs) (h : HasRing g ring) :
    HasRing (collection gs) ring

/-! ## Positions -/

mutual

/-- The list of positions leaves out none, whatever holds them. -/
theorem mem_positions : ∀ (g : Geometry) (p : Position), p ∈ positions g ↔ g.HasPosition p
  | point q, p => by
    rw [positions, List.mem_singleton]
    constructor
    · rintro rfl
      exact .point p
    · rintro ⟨⟩
      rfl
  | multiPoint ps, p => ⟨.multiPoint, fun | .multiPoint h => h⟩
  | lineString line, p => ⟨.lineString, fun | .lineString h => h⟩
  | multiLineString lines, p => by
    rw [positions, List.mem_flatten]
    constructor
    · rintro ⟨line, hline, h⟩
      exact .multiLineString hline h
    · exact fun | .multiLineString hline h => ⟨_, hline, h⟩
  | polygon rings, p => by
    rw [positions, List.mem_flatten]
    constructor
    · rintro ⟨ring, hring, h⟩
      exact .polygon hring h
    · exact fun | .polygon hring h => ⟨_, hring, h⟩
  | multiPolygon polygons, p => by
    rw [positions, List.mem_flatten]
    constructor
    · rintro ⟨ring, hring, h⟩
      obtain ⟨rings, hrings, hring⟩ := List.mem_flatten.mp hring
      exact .multiPolygon hrings hring h
    · exact fun | .multiPolygon hrings hring h => ⟨_, List.mem_flatten.mpr ⟨_, hrings, hring⟩, h⟩
  | collection gs, p => by
    rw [positions, mem_positionsOf gs p]
    constructor
    · rintro ⟨g, hg, h⟩
      exact .collection hg h
    · exact fun | .collection hg h => ⟨_, hg, h⟩

theorem mem_positionsOf : ∀ (gs : List Geometry) (p : Position), p ∈ positionsOf gs ↔ ∃ g ∈ gs, g.HasPosition p
  | [], p => by
    rw [positionsOf]
    exact iff_of_false List.not_mem_nil fun ⟨_, hg, _⟩ => List.not_mem_nil hg
  | g :: gs, p => by
    rw [positionsOf, List.mem_append, mem_positions g p, mem_positionsOf gs p]
    simp only [List.mem_cons, exists_eq_or_imp]

end

/-! ## Checks of parts -/

theorem checkMembers_eq_ok (gs : List Geometry) : checkMembers gs = .ok () ↔ ∀ g ∈ gs, g.check = .ok () :=
  checkAll_eq_ok rfl (fun _ _ => rfl) gs

variable {g : Geometry}

theorem HasPosition.checked {p : Position} (h : g.HasPosition p) (hg : g.check = .ok ()) :
    checkPosition p = .ok () :=
  positions_of_check g hg p ((mem_positions g p).mpr h)

theorem HasLine.checked {line : List Position} (h : g.HasLine line) (hg : g.check = .ok ()) :
    checkLine line = .ok () := by
  induction h with
  | lineString line => exact hg
  | multiLineString h => exact (checkLines_eq_ok _).mp hg _ h
  | collection hmem _ ih => exact ih ((checkMembers_eq_ok _).mp hg _ hmem)

theorem HasRing.checked {ring : List Position} (h : g.HasRing ring) (hg : g.check = .ok ()) :
    checkRing ring = .ok () := by
  induction h with
  | polygon h => exact (checkRings_eq_ok _).mp hg _ h
  | multiPolygon hrings h =>
    have hpolygon := (checkPolygons_eq_ok _).mp hg _ hrings
    exact (checkRings_eq_ok _).mp hpolygon _ h
  | collection hmem _ ih => exact ih ((checkMembers_eq_ok _).mp hg _ hmem)

/-! ## Valid geometries -/

/-- Every part of a geometry is well made, at any depth. -/
structure IsValid (g : Geometry) : Prop where
  positions : ∀ p, g.HasPosition p → (p.length = 2 ∨ p.length = 3) ∧ ∀ x ∈ p, x.isFinite = true
  lines : ∀ line, g.HasLine line → 2 ≤ line.length
  rings : ∀ ring, g.HasRing ring → 4 ≤ ring.length ∧
    ∃ first last, ring.head? = some first ∧ ring.getLast? = some last ∧ (first == last) = true

/-- A ring that is closed has an end to be equal to its start. -/
theorem ends_of_closed (ring : List Position) (hlength : 4 ≤ ring.length)
    (h : (ring.head? == ring.getLast?) = true) :
    ∃ first last, ring.head? = some first ∧ ring.getLast? = some last ∧ (first == last) = true := by
  cases ring with
  | nil => exact absurd hlength (by decide)
  | cons p ps =>
    rw [List.head?_cons, List.getLast?_eq_some_getLast (List.cons_ne_nil p ps)] at h
    exact ⟨p, _, rfl, List.getLast?_eq_some_getLast (List.cons_ne_nil p ps), h⟩

theorem isValid_of_check (hg : g.check = .ok ()) : g.IsValid where
  positions p h := (checkPosition_eq_ok p).mp (h.checked hg)
  lines line h := ((checkLine_eq_ok line).mp (h.checked hg)).1
  rings ring h := by
    obtain ⟨hlength, -, hclosed⟩ := (checkRing_eq_ok ring).mp (h.checked hg)
    exact ⟨hlength, ends_of_closed ring hlength hclosed⟩

end RecordQuery.Geometry
