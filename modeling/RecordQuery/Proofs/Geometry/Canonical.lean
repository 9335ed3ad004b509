import RecordQuery.Geometry.Box
import RecordQuery.Proofs.Number.Bounds

/-! Geometries with zeros of one sign. Equality, validity and boxes are all by numeric comparison, so none of them
tells a geometry from its canonical form. -/
namespace RecordQuery
set_option autoImplicit false

/-! ## Lists that compare alike -/

section Lists

universe v
variable {α : Type v} [BEq α] {f g : α → α}

theorem beq_map_map (h : ∀ x y, (f x == g y) = (x == y)) (xs ys : List α) :
    (xs.map f == ys.map g) = (xs == ys) := by
  induction xs generalizing ys with
  | nil => cases ys <;> rfl
  | cons x xs ih =>
    cases ys with
    | nil => rfl
    | cons y ys => rw [List.map_cons, List.map_cons, List.cons_beq_cons, List.cons_beq_cons, h x y, ih ys]

theorem beq_map_left (h : ∀ x y, (f x == y) = (x == y)) (xs ys : List α) : (xs.map f == ys) = (xs == ys) := by
  have hmap := beq_map_map h xs ys
  rwa [List.map_id'] at hmap

theorem map_eq_of_beq (h : ∀ x y, (x == y) = true → f x = f y) (xs ys : List α) (hbeq : (xs == ys) = true) :
    xs.map f = ys.map f := by
  induction xs generalizing ys with
  | nil =>
    cases ys with
    | nil => rfl
    | cons y ys => exact absurd hbeq nofun
  | cons x xs ih =>
    cases ys with
    | nil => exact absurd hbeq nofun
    | cons y ys =>
      rw [List.cons_beq_cons, Bool.and_eq_true] at hbeq
      rw [List.map_cons, List.map_cons, h x y hbeq.1, ih ys hbeq.2]

end Lists

/-! ## Positions -/

def canonicalPosition (p : Position) : Position := p.map Binary64.canonical

theorem beq_canonicalPosition_left (p q : Position) : (canonicalPosition p == q) = (p == q) :=
  beq_map_left Binary64.beq_canonical_left p q

theorem beq_canonicalPosition (p q : Position) : (canonicalPosition p == canonicalPosition q) = (p == q) :=
  beq_map_map (fun x y => by rw [Binary64.beq_canonical_left, Binary64.beq_canonical_right]) p q

theorem canonicalPosition_eq_of_beq (p q : Position) (h : (p == q) = true) :
    canonicalPosition p = canonicalPosition q :=
  map_eq_of_beq (fun _ _ => Binary64.canonical_eq_of_beq) p q h

namespace Geometry

/-! ## Geometries -/

mutual

def canonical : Geometry → Geometry
  | point p => point (canonicalPosition p)
  | multiPoint ps => multiPoint (ps.map canonicalPosition)
  | lineString ps => lineString (ps.map canonicalPosition)
  | multiLineString ls => multiLineString (ls.map (List.map canonicalPosition))
  | polygon rs => polygon (rs.map (List.map canonicalPosition))
  | multiPolygon ps => multiPolygon (ps.map (List.map (List.map canonicalPosition)))
  | collection gs => collection (canonicalEach gs)

def canonicalEach : List Geometry → List Geometry
  | [] => []
  | g :: gs => canonical g :: canonicalEach gs

end

mutual

theorem equal_canonical_left : ∀ g h : Geometry, equal g.canonical h = equal g h
  | point p, h => by
    cases h with
    | point q => exact beq_canonicalPosition_left p q
    | _ => rfl
  | multiPoint ps, h => by
    cases h with
    | multiPoint qs => exact beq_map_left beq_canonicalPosition_left ps qs
    | _ => rfl
  | lineString ps, h => by
    cases h with
    | lineString qs => exact beq_map_left beq_canonicalPosition_left ps qs
    | _ => rfl
  | multiLineString ls, h => by
    cases h with
    | multiLineString ms => exact beq_map_left (beq_map_left beq_canonicalPosition_left) ls ms
    | _ => rfl
  | polygon rs, h => by
    cases h with
    | polygon ss => exact beq_map_left (beq_map_left beq_canonicalPosition_left) rs ss
    | _ => rfl
  | multiPolygon ps, h => by
    cases h with
    | multiPolygon qs => exact beq_map_left (beq_map_left (beq_map_left beq_canonicalPosition_left)) ps qs
    | _ => rfl
  | collection gs, h => by
    cases h with
    | collection hs => rw [canonical, equal, equal, equalMembers_canonical_left gs hs]
    | _ => rfl

theorem equalMembers_canonical_left : ∀ gs hs : List Geometry,
    equalMembers (canonicalEach gs) hs = equalMembers gs hs
  | [], hs => by rw [canonicalEach]
  | g :: gs, hs => by
    cases hs with
    | nil => rfl
    | cons h hs =>
      rw [canonicalEach, equalMembers, equalMembers, equal_canonical_left g h, equalMembers_canonical_left gs hs]

end

mutual

/-- Equal geometries differ in signs of zero at most. -/
theorem canonical_eq_of_equal : ∀ g h : Geometry, equal g h = true → g.canonical = h.canonical
  | point p, h, heq => by
    cases h with
    | point q => exact congrArg point (canonicalPosition_eq_of_beq p q heq)
    | _ => exact absurd heq nofun
  | multiPoint ps, h, heq => by
    cases h with
    | multiPoint qs => exact congrArg multiPoint (map_eq_of_beq canonicalPosition_eq_of_beq ps qs heq)
    | _ => exact absurd heq nofun
  | lineString ps, h, heq => by
    cases h with
    | lineString qs => exact congrArg lineString (map_eq_of_beq canonicalPosition_eq_of_beq ps qs heq)
    | _ => exact absurd heq nofun
  | multiLineString ls, h, heq => by
    cases h with
    | multiLineString ms =>
      exact congrArg multiLineString (map_eq_of_beq (map_eq_of_beq canonicalPosition_eq_of_beq) ls ms heq)
    | _ => exact absurd heq nofun
  | polygon rs, h, heq => by
    cases h with
    | polygon ss => exact congrArg polygon (map_eq_of_beq (map_eq_of_beq canonicalPosition_eq_of_beq) rs ss heq)
    | _ => exact absurd heq nofun
  | multiPolygon ps, h, heq => by
    cases h with
    | multiPolygon qs =>
      exact congrArg multiPolygon
        (map_eq_of_beq (map_eq_of_beq (map_eq_of_beq canonicalPosition_eq_of_beq)) ps qs heq)
    | _ => exact absurd heq nofun
  | collection gs, h, heq => by
    cases h with
    | collection hs => exact congrArg collection (canonicalEach_eq_of_equal gs hs heq)
    | _ => exact absurd heq nofun

theorem canonicalEach_eq_of_equal : ∀ gs hs : List Geometry, equalMembers gs hs = true →
    canonicalEach gs = canonicalEach hs
  | [], [], _ => rfl
  | g :: gs, h :: hs, heq => by
    rw [equalMembers, Bool.and_eq_true] at heq
    rw [canonicalEach, canonicalEach, canonical_eq_of_equal g h heq.1, canonicalEach_eq_of_equal gs hs heq.2]
  | [], _ :: _, heq => absurd heq nofun
  | _ :: _, [], heq => absurd heq nofun

end

/-! ## Validity -/

theorem checkPosition_canonical (p : Position) : checkPosition (canonicalPosition p) = checkPosition p := by
  have hfinite : (canonicalPosition p).all Binary64.isFinite = p.all Binary64.isFinite := by
    rw [canonicalPosition, List.all_map]
    exact congrArg p.all (funext Binary64.isFinite_canonical)
  rw [checkPosition, hfinite, canonicalPosition, List.length_map, checkPosition]

/-- Checking one part after the other finds the same first fault where each part is judged the same. -/
theorem checkAll_map {α : Type} {check : α → Except Fault Unit} {checkAll : List α → Except Fault Unit}
    (hcons : ∀ x xs, checkAll (x :: xs) = do check x; checkAll xs) {f : α → α} (h : ∀ x, check (f x) = check x)
    (xs : List α) : checkAll (xs.map f) = checkAll xs := by
  induction xs with
  | nil => rfl
  | cons x xs ih => rw [List.map_cons, hcons, hcons, h, ih]

theorem checkPositions_canonical (ps : List Position) :
    checkPositions (ps.map canonicalPosition) = checkPositions ps :=
  checkAll_map (fun _ _ => rfl) checkPosition_canonical ps

theorem checkLine_canonical (line : List Position) : checkLine (line.map canonicalPosition) = checkLine line := by
  rw [checkLine, List.length_map, checkPositions_canonical, checkLine]

theorem checkLines_canonical (ls : List (List Position)) :
    checkLines (ls.map (List.map canonicalPosition)) = checkLines ls :=
  checkAll_map (fun _ _ => rfl) checkLine_canonical ls

theorem checkRing_canonical (ring : List Position) : checkRing (ring.map canonicalPosition) = checkRing ring := by
  have hclosed : ((ring.map canonicalPosition).head? == (ring.map canonicalPosition).getLast?) =
      (ring.head? == ring.getLast?) := by
    rw [List.head?_map, List.getLast?_map]
    cases ring.head? <;> cases ring.getLast? <;> first | rfl | exact beq_canonicalPosition _ _
  rw [checkRing, List.length_map, checkPositions_canonical, hclosed, checkRing]

theorem checkRings_canonical (rs : List (List Position)) :
    checkRings (rs.map (List.map canonicalPosition)) = checkRings rs :=
  checkAll_map (fun _ _ => rfl) checkRing_canonical rs

theorem checkPolygons_canonical (ps : List (List (List Position))) :
    checkPolygons (ps.map (List.map (List.map canonicalPosition))) = checkPolygons ps :=
  checkAll_map (fun _ _ => rfl) checkRings_canonical ps

mutual

theorem check_canonical : ∀ g : Geometry, check g.canonical = check g
  | point p => checkPosition_canonical p
  | multiPoint ps => checkPositions_canonical ps
  | lineString line => checkLine_canonical line
  | multiLineString ls => checkLines_canonical ls
  | polygon rs => checkRings_canonical rs
  | multiPolygon ps => checkPolygons_canonical ps
  | collection gs => by rw [canonical, check, check, checkMembers_canonical gs]

theorem checkMembers_canonical : ∀ gs : List Geometry, checkMembers (canonicalEach gs) = checkMembers gs
  | [] => by rw [canonicalEach]
  | g :: gs => by rw [canonicalEach, checkMembers, checkMembers, check_canonical g, checkMembers_canonical gs]

end

/-! ## Positions of a geometry -/

mutual

theorem positions_canonical : ∀ g : Geometry, positions g.canonical = (positions g).map canonicalPosition
  | point p => rfl
  | multiPoint ps => rfl
  | lineString line => rfl
  | multiLineString ls => List.map_flatten.symm
  | polygon rs => List.map_flatten.symm
  | multiPolygon ps => by
    rw [canonical, positions, positions, List.map_flatten, List.map_flatten]
  | collection gs => by rw [canonical, positions, positions, positionsOf_canonical gs]

theorem positionsOf_canonical : ∀ gs : List Geometry,
    positionsOf (canonicalEach gs) = (positionsOf gs).map canonicalPosition
  | [] => by rw [canonicalEach, positionsOf, List.map_nil]
  | g :: gs => by
    rw [canonicalEach, positionsOf, positionsOf, positions_canonical g, positionsOf_canonical gs, List.map_append]

end

end Geometry

/-! ## Boxes -/

namespace Box

def canonical (b : Box) : Box := ⟨b.minX.canonical, b.minY.canonical, b.maxX.canonical, b.maxY.canonical⟩

theorem contains_canonical_left (b c : Box) : b.canonical.contains c = b.contains c := by
  simp only [contains, canonical, Binary64.le_canonical_left, Binary64.le_canonical_right]

theorem contains_canonical_right (b c : Box) : b.contains c.canonical = b.contains c := by
  simp only [contains, canonical, Binary64.le_canonical_left, Binary64.le_canonical_right]

theorem intersects_canonical_left (b c : Box) : b.canonical.intersects c = b.intersects c := by
  simp only [intersects, canonical, Binary64.le_canonical_left, Binary64.le_canonical_right]

theorem addPosition_canonical (b : Option Box) (p : Position) :
    addPosition (b.map canonical) (canonicalPosition p) = (addPosition b p).map canonical := by
  match p with
  | [] | [_] => rfl
  | x :: y :: _ =>
    cases b with
    | none => rfl
    | some b =>
      simp only [addPosition, canonicalPosition, List.map_cons, Option.map_some, extend, canonical,
        Binary64.min_canonical, Binary64.max_canonical]

theorem foldl_addPosition_canonical (ps : List Position) (b : Option Box) :
    (ps.map canonicalPosition).foldl addPosition (b.map canonical) = (ps.foldl addPosition b).map canonical := by
  induction ps generalizing b with
  | nil => rfl
  | cons p ps ih => rw [List.map_cons, List.foldl_cons, List.foldl_cons, addPosition_canonical, ih]

end Box

theorem Geometry.box?_canonical (g : Geometry) : g.canonical.box? = g.box?.map Box.canonical := by
  rw [box?, positions_canonical]
  exact Box.foldl_addPosition_canonical g.positions none

end RecordQuery
