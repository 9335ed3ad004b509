import RecordQuery.QueryTree

/-! Query documents: JSON objects with a class tag, decoded into query trees. Decoding is soft. A document that
does not decode gives no tree, and a composite leaves out the entries that do not decode; what was left out, where
and why, is told by diagnostics. -/
namespace RecordQuery
set_option autoImplicit false

/-! ## Settings -/

/-- What to do with lists of paths and values of different lengths. -/
inductive ShapePolicy where
  | reject
  /-- Pair them up to the shorter length. -/
  | truncate
deriving DecidableEq, Repr

structure Settings where
  shape : ShapePolicy := .reject
  /-- Whether the classes with groups of conditions may be used. -/
  nestedGroups : Bool := true
  /-- Whether values that read as geometries become geometries. -/
  coerceGeometry : Bool := true
deriving DecidableEq, Repr

/-! ## Errors -/

/-- Why a document does not decode. -/
inductive DecodeError where
  | null
  | notAnObject
  | missingTag
  | tagNotString
  | unknownTag (tag : String)
  | disabled (cls : QueryClass)
  | missingField (cls : QueryClass) (field : String)
  | wrongShape (cls : QueryClass) (field expected : String)
  | noConditions (cls : QueryClass)
  | lengthMismatch (conditions values : Nat)
deriving DecidableEq, Repr

def DecodeError.message : DecodeError → String
  | null => "query document is null"
  | notAnObject => "query document is not an object"
  | missingTag => "query document has no `_query_class`"
  | tagNotString => "`_query_class` must be a string"
  | unknownTag tag => "unknown query class '" ++ tag ++ "'"
  | disabled cls => "query class '" ++ cls.tag ++ "' is disabled"
  | missingField cls field => cls.tag ++ " requires `" ++ field ++ "`"
  | wrongShape cls field expected => cls.tag ++ ": `" ++ field ++ "` must be " ++ expected
  | noConditions cls => cls.tag ++ ": no conditions given"
  | lengthMismatch conditions values => toString conditions ++ " conditions but " ++ toString values ++ " values"

/-- An entry that was left out: the indices that lead to it from the root, and why it does not decode. -/
structure Diagnostic where
  path : List Nat
  error : DecodeError
deriving DecidableEq, Repr

namespace Diagnostic

/-- The same diagnostic, seen from a document that has this one as entry `index`. -/
def below (index : Nat) (d : Diagnostic) : Diagnostic := ⟨index :: d.path, d.error⟩

def text (d : Diagnostic) : String :=
  "root" ++ String.join (d.path.map fun i => "._sub_queries[" ++ toString i ++ "]") ++ ": " ++ d.error.message

end Diagnostic

/-! ## Fields of a document -/

section Fields

variable (cls : QueryClass) (fields : List (String × Json))

def requireField (key : String) : Except DecodeError Json :=
  match Json.member? key fields with
  | some value => .ok value
  | none => .error (.missingField cls key)

def requireString (key : String) : Except DecodeError String := do
  match ← requireField cls fields key with
  | .string s => .ok s
  | _ => .error (.wrongShape cls key "a string")

/-- The strings of a list that holds nothing else. -/
def stringItems? : List Json → Option (List String)
  | [] => some []
  | .string s :: js => (s :: ·) <$> stringItems? js
  | _ :: _ => none

/-- Paths paired with values of the same position. -/
def pairConditions (s : Settings) (paths : List String) (values : List Json) : List Condition :=
  List.zipWith (fun path value => (path, Operand.coerceIf s.coerceGeometry value)) paths values

/-- A single path takes the whole value, so that a list stays a list; a list of paths is paired with a list of
values. -/
def plainConditions (s : Settings) : Except DecodeError (List Condition) := do
  let condition ← requireField cls fields "_condition"
  let value ← requireField cls fields "_value"
  let misshapen : DecodeError := .wrongShape cls "_condition" "a string or an array of strings"
  match condition with
  | .string path => .ok [(path, Operand.coerceIf s.coerceGeometry value)]
  | .array items =>
    match stringItems? items with
    | none => .error misshapen
    | some paths =>
      if paths.isEmpty then .error (.noConditions cls)
      else match value with
        | .array values =>
          if paths.length ≠ values.length ∧ s.shape = .reject then
            .error (.lengthMismatch paths.length values.length)
          else if values.isEmpty then .error (.noConditions cls)
          else .ok (pairConditions s paths values)
        | _ => .error (.wrongShape cls "_value" "an array when `_condition` is an array")
  | _ => .error misshapen

/-- A path and the field that its value is compared with. -/
def selfFieldConditions : Except DecodeError (List Condition) := do
  let condition ← requireString cls fields "_condition"
  let other ← requireString cls fields "_field_to_compare"
  .ok [(condition, .field other)]

/-- A path and a group of one condition below it, whose value stays as it is. -/
def nestedConditions : Except DecodeError (List Condition) := do
  let condition ← requireString cls fields "_condition"
  let inner ← requireString cls fields "_inner_condition"
  let value ← requireField cls fields "_value"
  .ok [(condition, .group [(inner, .literal value)])]

def formConditions (s : Settings) : ConditionForm → Except DecodeError (List Condition)
  | .plain => plainConditions cls fields s
  | .selfField => selfFieldConditions cls fields
  | .nested => nestedConditions cls fields

def orderEntries : Except DecodeError (List String) := do
  let misshapen : DecodeError := .wrongShape cls "_order_by" "an array of strings"
  match ← requireField cls fields "_order_by" with
  | .array items => match stringItems? items with
    | some entries => .ok entries
    | none => .error misshapen
  | _ => .error misshapen

end Fields

/-- The class that the tag of a document names, where the settings admit it. -/
def documentClass (s : Settings) (fields : List (String × Json)) : Except DecodeError QueryClass :=
  match Json.member? "_query_class" fields with
  | none => .error .missingTag
  | some (.string tag) =>
    match QueryClass.ofTag? tag with
    | none => .error (.unknownTag tag)
    | some cls => if cls.isNested ∧ ¬s.nestedGroups then .error (.disabled cls) else .ok cls
  | some _ => .error .tagNotString

/-! ## Trees -/

mutual

/-- The tree of a document, and what was left out of it. A document that does not decode leaves out nothing but
itself, for a composite fails before its entries are looked at. -/
def decodeTree (s : Settings) : Json → Except DecodeError (QueryTree × List Diagnostic)
  | .null => .error .null
  | .object fields => do
    match ← documentClass s fields with
    | .identity => .ok (.identity, [])
    | .all => .ok (.all, [])
    | .distinct => .ok (.distinct, [])
    | .filter form => do
      let conditions ← formConditions (.filter form) fields s form
      .ok (.filter form conditions, [])
    | .exclude form => do
      let conditions ← formConditions (.exclude form) fields s form
      .ok (.exclude form conditions, [])
    | .orderBy => do
      let entries ← orderEntries .orderBy fields
      .ok (.orderBy entries, [])
    | .allOf => do
      let (children, dropped) ← subQueries s .allOf fields
      .ok (.allOf children, dropped)
    | .anyOf => do
      let (children, dropped) ← subQueries s .anyOf fields
      .ok (.anyOf children, dropped)
  | _ => .error .notAnObject

/-- The entries of a composite among its fields. -/
def subQueries (s : Settings) (cls : QueryClass) :
    List (String × Json) → Except DecodeError (List QueryTree × List Diagnostic)
  | [] => .error (.missingField cls "_sub_queries")
  | (key, value) :: fields => if key = "_sub_queries" then subQueryList s cls value else subQueries s cls fields

def subQueryList (s : Settings) (cls : QueryClass) : Json → Except DecodeError (List QueryTree × List Diagnostic)
  | .array entries => .ok (decodeEntries s 0 entries)
  | _ => .error (.wrongShape cls "_sub_queries" "an array of query documents")

/-- The trees of the entries that decode; `index` counts those before. -/
def decodeEntries (s : Settings) (index : Nat) : List Json → List QueryTree × List Diagnostic
  | [] => ([], [])
  | entry :: entries =>
    let (trees, dropped) := decodeEntries s (index + 1) entries
    match decodeTree s entry with
    | .ok (tree, inner) => (tree :: trees, inner.map (·.below index) ++ dropped)
    | .error e => (trees, ⟨[index], e⟩ :: dropped)

end

/-- A document's tree, if it decodes, and a diagnostic for everything that does not. -/
structure Decoded where
  tree : Option QueryTree
  diagnostics : List Diagnostic

def decodeWithDiagnostics (s : Settings) (document : Json) : Decoded :=
  match decodeTree s document with
  | .ok (tree, dropped) => ⟨some tree, dropped⟩
  | .error e => ⟨none, [⟨[], e⟩]⟩

/-- The tree of a document, or why its root does not decode. -/
def tryDecode (s : Settings) (document : Json) : Except DecodeError QueryTree :=
  (decodeTree s document).map Prod.fst

/-- The tree of a document, if there is one and it decodes. -/
def decode (s : Settings) (document : Option Json) : Option QueryTree :=
  document.bind fun d => (tryDecode s d).toOption

universe u v

/-- Applies a document to a builder, which stays as it is where nothing decodes. -/
def applyDocument {B : Type u} {ε : Type v} [QueryBuilder B ε] (s : Settings) (document : Option Json) (b : B) :
    Except ε B :=
  match decode s document with
  | some tree => tree.apply b
  | none => .ok b

end RecordQuery
