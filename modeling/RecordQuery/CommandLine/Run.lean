import RecordQuery.CommandLine.Options
import RecordQuery.RecordSet
import RecordQuery.Request

/-! A run of the command line, as a function from the options and the texts at hand to the output. The records are
read only when they are needed: the tree of a document is shown without them. -/
namespace RecordQuery.CommandLine
set_option autoImplicit false

/-- Why a file has no text. -/
inductive FileError where
  | notFound
  | isDirectory
  | notText
  | other (message : String)
deriving DecidableEq, Repr

def FileError.message : FileError → String
  | notFound => "No such file or directory (os error 2)"
  | isDirectory => "Is a directory (os error 21)"
  | notText => "stream did not contain valid UTF-8"
  | other message => message

/-- The texts that a run may read. -/
structure Inputs where
  stdin : String
  file : String → Except FileError String

/-- Where the records come from. -/
inductive RecordsOrigin where
  | stdin
  | file (path : String)
deriving DecidableEq, Repr

/-- Why a run gives no output. -/
inductive RunError where
  | queryFile (path : String) (why : FileError)
  | invalidDocument (why : RequestError)
  | dataFile (path : String) (why : FileError)
  | invalidRecords (origin : RecordsOrigin) (why : Json.ReadError)
  | apply (why : QueryError)

/-- The messages of an error and of those behind it. -/
def RunError.chain : RunError → List String
  | queryFile path why => ["failed to read query file " ++ path, why.message]
  | invalidDocument why =>
    let behind := match why with
      | .invalidJson e => [e.message]
      | .invalidBase64 e => [e.message]
      | .notText => []
    "invalid query document" :: why.message :: behind
  | dataFile path .isDirectory => [path ++ " is not a JSON array of records", FileError.isDirectory.message]
  | dataFile path why => ["failed to open " ++ path, why.message]
  | invalidRecords .stdin why => ["stdin is not a JSON array of records", why.message]
  | invalidRecords (.file path) why => [path ++ " is not a JSON array of records", why.message]
  | apply why => ["failed to apply query document", why.message]

def RunError.message (e : RunError) : String := ": ".intercalate e.chain

/-- The request that the options make: the document as text, as encoded text, or as the text of a file. -/
def Options.request (o : Options) (inputs : Inputs) : Except RunError Request :=
  match o.query, o.queryB64, o.queryFile with
  | some text, _, _ => .ok { parameters := [("query", text)] }
  | none, some encoded, _ => .ok { parameters := [("query_b64", encoded)] }
  | none, none, some path => match inputs.file path with
    | .ok text => .ok { parameters := [("query", text)] }
    | .error e => .error (.queryFile path e)
  | none, none, none => .ok {}

def Options.recordsOrigin (o : Options) : RecordsOrigin :=
  match o.data with
  | none => .stdin
  | some path => if path = "-" then .stdin else .file path

def Options.records (o : Options) (inputs : Inputs) : Except RunError (List Json) := do
  let text ← match o.recordsOrigin with
    | .stdin => .ok inputs.stdin
    | .file path => (inputs.file path).mapError (.dataFile path)
  (Json.parseList text).mapError (.invalidRecords o.recordsOrigin)

/-- The decoded document of the options, if they give one, with a diagnostic for everything in it that does not
decode. -/
def Options.decoded (o : Options) (inputs : Inputs) : Except RunError (Option Decoded) := do
  let request ← o.request inputs
  let document ← request.document.mapError .invalidDocument
  .ok (document.map (decodeWithDiagnostics o.settings))

/-- The warnings of a run: what of the document is left out. They come before the records are read. -/
def Options.warnings (o : Options) (inputs : Inputs) : List String :=
  match o.decoded inputs with
  | .ok (some decoded) => decoded.diagnostics.map fun d => "query document entry ignored diagnostic=" ++ d.text
  | _ => []

/-- A value as it is shown, on a line of its own or over several. -/
def Options.show (o : Options) (j : Json) : String := (if o.compact then j.render else j.spread 0) ++ "\n"

/-- The output of a run. -/
def Options.run (o : Options) (inputs : Inputs) : Except RunError String := do
  let tree := (← o.decoded inputs).bind (·.tree)
  if o.explain then .ok (o.show (tree.elim .null QueryTree.toJson))
  else
    let records ← o.records inputs
    let start : RecordSet Json := RecordSet.ofSource ⟨0, records⟩
    let s ← match tree with
      | some t => (t.apply start).mapError .apply
      | none => .ok start
    if o.count then .ok (toString s.count ++ "\n") else .ok (o.show (.array s.results))

end RecordQuery.CommandLine
