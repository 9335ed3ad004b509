import RecordQuery.Json.Basic

/-! Geometries as GeoJSON writes them: seven types over lists of positions, with collections of any depth. What
makes one valid is said by `Geometry.check`, which gives the first fault in reading order. -/
namespace RecordQuery
set_option autoImplicit false

/-- The ordinates of one place: two, or three with a height. -/
abbrev Position := List Binary64

inductive Geometry where
  | point (place : Position)
  | multiPoint (points : List Position)
  | lineString (line : List Position)
  | multiLineString (lines : List (List Position))
  | polygon (rings : List (List Position))
  | multiPolygon (polygons : List (List (List Position)))
  | collection (members : List Geometry)
deriving Repr, Inhabited

/-- The seven types of geometry, in the order in which they are numbered. -/
inductive GeometryType where
  | point
  | multiPoint
  | lineString
  | multiLineString
  | polygon
  | multiPolygon
  | collection
deriving DecidableEq, Repr

namespace GeometryType

def all : List GeometryType :=
  [point, multiPoint, lineString, multiLineString, polygon, multiPolygon, collection]

def name : GeometryType → String
  | point => "Point"
  | multiPoint => "MultiPoint"
  | lineString => "LineString"
  | multiLineString => "MultiLineString"
  | polygon => "Polygon"
  | multiPolygon => "MultiPolygon"
  | collection => "GeometryCollection"

def ofName? (name : String) : Option GeometryType := all.find? (·.name == name)

end GeometryType

namespace Geometry

def type : Geometry → GeometryType
  | point _ => .point
  | multiPoint _ => .multiPoint
  | lineString _ => .lineString
  | multiLineString _ => .multiLineString
  | polygon _ => .polygon
  | multiPolygon _ => .multiPolygon
  | collection _ => .collection

/-! ## Equality -/

mutual

/-- Equality of geometries, ordinates by their numeric value. -/
def equal : Geometry → Geometry → Bool
  | point p, point q => p == q
  | multiPoint ps, multiPoint qs => ps == qs
  | lineString ps, lineString qs => ps == qs
  | multiLineString ps, multiLineString qs => ps == qs
  | polygon ps, polygon qs => ps == qs
  | multiPolygon ps, multiPolygon qs => ps == qs
  | collection gs, collection hs => equalMembers gs hs
  | _, _ => false

def equalMembers : List Geometry → List Geometry → Bool
  | [], [] => true
  | g :: gs, h :: hs => equal g h && equalMembers gs hs
  | _, _ => false

end

instance : BEq Geometry := ⟨equal⟩

/-! ## Positions -/

mutual

/-- All positions, in reading order. -/
def positions : Geometry → List Position
  | point p => [p]
  | multiPoint ps => ps
  | lineString ps => ps
  | multiLineString ls => ls.flatten
  | polygon rs => rs.flatten
  | multiPolygon ps => ps.flatten.flatten
  | collection gs => positionsOf gs

def positionsOf : List Geometry → List Position
  | [] => []
  | g :: gs => positions g ++ positionsOf gs

end

/-! ## Validity -/

/-- What is wrong with a geometry of the right shape. -/
inductive Fault where
  | badPosition (ordinates : Nat)
  | shortLine (positions : Nat)
  | shortRing (positions : Nat)
  | openRing
deriving DecidableEq, Repr

/-- A position has two or three finite ordinates. -/
def checkPosition (p : Position) : Except Fault Unit :=
  if (p.length = 2 ∨ p.length = 3) ∧ p.all Binary64.isFinite then .ok ()
  else .error (.badPosition p.length)

def checkPositions : List Position → Except Fault Unit
  | [] => .ok ()
  | p :: ps => do checkPosition p; checkPositions ps

/-- A line has at least two positions. -/
def checkLine (line : List Position) : Except Fault Unit :=
  if line.length < 2 then .error (.shortLine line.length) else checkPositions line

def checkLines : List (List Position) → Except Fault Unit
  | [] => .ok ()
  | l :: ls => do checkLine l; checkLines ls

/-- A ring has at least four positions and ends where it began. -/
def checkRing (ring : List Position) : Except Fault Unit :=
  if ring.length < 4 then .error (.shortRing ring.length)
  else do
    checkPositions ring
    if ring.head? == ring.getLast? then .ok () else .error .openRing

def checkRings : List (List Position) → Except Fault Unit
  | [] => .ok ()
  | r :: rs => do checkRing r; checkRings rs

def checkPolygons : List (List (List Position)) → Except Fault Unit
  | [] => .ok ()
  | p :: ps => do checkRings p; checkPolygons ps

mutual

/-- The first fault of a geometry, in reading order. -/
def check : Geometry → Except Fault Unit
  | point p => checkPosition p
  | multiPoint ps => checkPositions ps
  | lineString line => checkLine line
  | multiLineString lines => checkLines lines
  | polygon rings => checkRings rings
  | multiPolygon polygons => checkPolygons polygons
  | collection gs => checkMembers gs

def checkMembers : List Geometry → Except Fault Unit
  | [] => .ok ()
  | g :: gs => do check g; checkMembers gs

end

end Geometry

end RecordQuery
