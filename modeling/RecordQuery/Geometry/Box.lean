import RecordQuery.Geometry.Basic

/-! Axis-parallel boxes in the plane, the relations between them, and the box of a geometry: the one that its
positions span, or none where it has no position. -/
namespace RecordQuery
set_option autoImplicit false

structure Box where
  minX : Binary64
  minY : Binary64
  maxX : Binary64
  maxY : Binary64
deriving Repr

namespace Box

/-- The box around a single point. -/
def point (x y : Binary64) : Box := ⟨x, y, x, y⟩

/-- The box grown to include a point. -/
def extend (b : Box) (x y : Binary64) : Box :=
  ⟨b.minX.min x, b.minY.min y, b.maxX.max x, b.maxY.max y⟩

/-- Whether the other box lies in this one, edges included. -/
def contains (b other : Box) : Bool :=
  b.minX.le other.minX && b.minY.le other.minY && other.maxX.le b.maxX && other.maxY.le b.maxY

/-- Whether the two boxes share a point. -/
def intersects (b other : Box) : Bool :=
  b.minX.le other.maxX && other.minX.le b.maxX && b.minY.le other.maxY && other.minY.le b.maxY

def equal (b other : Box) : Bool :=
  b.minX == other.minX && b.minY == other.minY && b.maxX == other.maxX && b.maxY == other.maxY

instance : BEq Box := ⟨equal⟩

/-- The box grown by a position; one with fewer than two ordinates adds nothing. -/
def addPosition (b : Option Box) : Position → Option Box
  | x :: y :: _ => match b with
    | some b => some (b.extend x y)
    | none => some (point x y)
  | _ => b

end Box

/-- The box that the positions of a geometry span. -/
def Geometry.box? (g : Geometry) : Option Box := g.positions.foldl Box.addPosition none

end RecordQuery
