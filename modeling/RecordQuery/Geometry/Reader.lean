import RecordQuery.Geometry.Basic
import RecordQuery.Json.Reader

/-! Geometries from JSON and back. At the outermost level a geometry is an object whose type is given by name.
The members of a collection have more freedom: such a geometry may also be a list that begins with its type, and a
type may be given by its number. Reading settles the shape first and validity afterwards. -/
namespace RecordQuery.Geometry
set_option autoImplicit false

/-- Why a value does not have the shape of a geometry. -/
inductive Mismatch where
  | missingMember (name : String)
  | unknownType (name : String)
  | typeNumberTooLarge (n : Int)
  | wrongKind (value : Json) (expected : String)
  | emptyList (type : GeometryType)
  | longList (length : Nat)
deriving Repr

/-- Why a value is no valid geometry. -/
inductive ReadError where
  | notAnObject
  | malformed (why : Mismatch)
  | invalid (why : Fault)
deriving Repr

/-! ## Messages -/

def Mismatch.message : Mismatch → String
  | missingMember name => "missing field `" ++ name ++ "`"
  | unknownType name =>
    "unknown variant `" ++ name ++ "`, expected one of " ++
      ", ".intercalate (GeometryType.all.map fun t => "`" ++ t.name ++ "`")
  | typeNumberTooLarge n =>
    "invalid value: integer `" ++ toString n ++ "`, expected variant index 0 <= i < " ++
      toString GeometryType.all.length
  | wrongKind value expected => "invalid type: " ++ Json.found value ++ ", expected " ++ expected
  | emptyList type => "invalid length 0, expected struct variant Geometry::" ++ type.name ++ " with 1 element"
  | longList length => "invalid length " ++ toString length ++ ", expected 1 element in sequence"

def Fault.message : Fault → String
  | badPosition n => "position must have 2 or 3 finite ordinates, got " ++ toString n
  | shortLine n => "LineString needs at least 2 positions, got " ++ toString n
  | shortRing n => "Polygon ring needs at least 4 positions, got " ++ toString n
  | openRing => "polygon ring is not closed"

def ReadError.message : ReadError → String
  | notAnObject => "geometry literal must be a JSON object"
  | malformed why => "malformed GeoJSON geometry: " ++ why.message
  | invalid why => why.message

/-! ## Coordinates -/

/-- Any number serves as an ordinate. -/
def readOrdinate : Json → Except Mismatch Binary64
  | .number (.int n) => .ok (Binary64.ofInt n)
  | .number (.double x) => .ok x.value
  | j => .error (.wrongKind j "f64")

/-- A list, each item read in turn. -/
def readEach {α : Type} (item : Json → Except Mismatch α) : Json → Except Mismatch (List α)
  | .array items => items.mapM item
  | j => .error (.wrongKind j "a sequence")

def readPosition : Json → Except Mismatch Position := readEach readOrdinate

/-- The geometry of a type other than a collection with the given coordinates. -/
def readCoordinates (type : GeometryType) (j : Json) : Except Mismatch Geometry :=
  match type with
  | .point => point <$> readPosition j
  | .multiPoint => multiPoint <$> readEach readPosition j
  | .lineString => lineString <$> readEach readPosition j
  | .multiLineString => multiLineString <$> readEach (readEach readPosition) j
  | .polygon => polygon <$> readEach (readEach readPosition) j
  | .multiPolygon => multiPolygon <$> readEach (readEach (readEach readPosition)) j
  | .collection => .ok (collection [])

/-! ## Types -/

/-- A type given by its name. -/
def readTypeName : Json → Except Mismatch GeometryType
  | .string name => match GeometryType.ofName? name with
    | some type => .ok type
    | none => .error (.unknownType name)
  | j => .error (.wrongKind j "variant identifier")

/-- A type given by its name or its number. -/
def readType : Json → Except Mismatch GeometryType
  | .number (.int n) =>
    if n < 0 then .error (.wrongKind (.number (.int n)) "variant identifier")
    else match GeometryType.all[n.toNat]? with
      | some type => .ok type
      | none => .error (.typeNumberTooLarge n)
  | j => readTypeName j

/-! ## Geometries -/

mutual

/-- A member of a collection. -/
def readMember : Json → Except Mismatch Geometry
  | .object ms =>
    match Json.member? "type" ms with
    | none => .error (.missingMember "type")
    | some t => do
      let type ← readType t
      if type = .collection then readGeometries ms
      else match Json.member? "coordinates" ms with
        | none => .error (.missingMember "coordinates")
        | some c => readCoordinates type c
  | .array [] => .error (.missingMember "type")
  | .array [t] => do .error (.emptyList (← readType t))
  | .array (t :: body :: more) => do
    let type ← readType t
    let g ← if type = .collection then readCollection body else readCoordinates type body
    if more.isEmpty then .ok g else .error (.longList (1 + more.length))
  | j => .error (.wrongKind j "internally tagged enum Geometry")

/-- The collection among the members of an object. -/
def readGeometries : List (String × Json) → Except Mismatch Geometry
  | [] => .error (.missingMember "geometries")
  | (k, v) :: ms => if k = "geometries" then readCollection v else readGeometries ms

/-- The collection with the members that a list gives. -/
def readCollection : Json → Except Mismatch Geometry
  | .array items => collection <$> readMembers items
  | j => .error (.wrongKind j "a sequence")

def readMembers : List Json → Except Mismatch (List Geometry)
  | [] => .ok []
  | j :: js => do
    let g ← readMember j
    let gs ← readMembers js
    .ok (g :: gs)

end

/-- The geometry that the members of an outermost object give. -/
def readOuter (ms : List (String × Json)) : Except Mismatch Geometry :=
  match Json.member? "type" ms with
  | none => .error (.missingMember "type")
  | some t => do
    let type ← readTypeName t
    if type = .collection then readGeometries ms
    else match Json.member? "coordinates" ms with
      | none => .error (.missingMember "coordinates")
      | some c => readCoordinates type c

/-- The valid geometry that a JSON value writes. -/
def ofJson : Json → Except ReadError Geometry
  | .object ms => do
    let g ← (readOuter ms).mapError .malformed
    g.check.mapError .invalid
    .ok g
  | _ => .error .notAnObject

/-! ## Back to JSON -/

def positionJson (p : Position) : Json := .array (p.map Json.ofBinary64)

def positionsJson (ps : List Position) : Json := .array (ps.map positionJson)

def linesJson (ls : List (List Position)) : Json := .array (ls.map positionsJson)

/-- The object with a type and one more member. -/
def typed (type : GeometryType) (key : String) (value : Json) : Json :=
  .object [("type", .string type.name), (key, value)]

mutual

def toJson : Geometry → Json
  | point p => typed .point "coordinates" (positionJson p)
  | multiPoint ps => typed .multiPoint "coordinates" (positionsJson ps)
  | lineString ps => typed .lineString "coordinates" (positionsJson ps)
  | multiLineString ls => typed .multiLineString "coordinates" (linesJson ls)
  | polygon rs => typed .polygon "coordinates" (linesJson rs)
  | multiPolygon ps => typed .multiPolygon "coordinates" (.array (ps.map linesJson))
  | collection gs => typed .collection "geometries" (.array (membersJson gs))

def membersJson : List Geometry → List Json
  | [] => []
  | g :: gs => toJson g :: membersJson gs

end

end RecordQuery.Geometry
