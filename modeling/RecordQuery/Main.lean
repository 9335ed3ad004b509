import RecordQuery.CommandLine.Run

/-! The command line: applies a query document to a list of JSON records. -/
namespace RecordQuery.CommandLine
set_option autoImplicit false

def usage : String :=
  "Apply a query document to a JSON array of records\n\n" ++
  "Usage: rq [OPTIONS] [DATA]\n\n" ++
  "Arguments:\n" ++
  "  [DATA]  JSON array of records (standard input when omitted or a hyphen)\n\n" ++
  "Options:\n" ++
  "      --query <QUERY>                Query document as JSON text\n" ++
  "      --query-b64 <QUERY_B64>        Query document as base64-encoded JSON\n" ++
  "      --query-file <QUERY_FILE>      Read the query document from a file\n" ++
  "      --shape-policy <SHAPE_POLICY>  What to do with lists of different lengths: reject or truncate\n" ++
  "      --no-nested                    Disable the nested classes\n" ++
  "      --no-geometry                  Keep geometries as plain literals\n" ++
  "      --count                        Print the number of matching records\n" ++
  "      --explain                      Print the decoded query tree instead of applying it\n" ++
  "      --compact                      Print JSON on a single line\n" ++
  "  -v, --verbose...                   Increase log verbosity\n" ++
  "  -h, --help                         Print help\n" ++
  "  -V, --version                      Print version\n"

def UsageError.message : UsageError → String
  | unknownArgument => "unexpected argument"
  | invalidValue => "a value is missing or not allowed"
  | conflict => "arguments cannot be used together"
  | tooManyValues => "a flag takes no value"
  | help => usage
  | version => "rq 0.1.0\n"

/-- The text of a file, or why there is none. -/
def readText (path : String) : IO (Except FileError String) := do
  try
    return .ok (← IO.FS.readFile path)
  catch e =>
    match e with
    | .noFileOrDirectory _ _ _ => return .error .notFound
    | .inappropriateType _ _ _ => return .error .isDirectory
    | _ => return .error (.other (toString e))

/-- Everything up to the end of a stream. -/
def readStream (stream : IO.FS.Stream) : IO String := do
  let mut text := ""
  repeat
    let line ← stream.getLine
    if line.isEmpty then break
    text := text ++ line
  return text

/-- Reads the texts that the options ask for. -/
def Options.gather (o : Options) : IO Inputs := do
  let queryText ← match o.query, o.queryB64, o.queryFile with
    | none, none, some path => readText path
    | _, _, _ => pure (.error .notFound)
  let dataText ← match o.explain, o.recordsOrigin with
    | false, .file path => readText path
    | _, _ => pure (.error .notFound)
  let stdin ← match o.explain, o.recordsOrigin with
    | false, .stdin => readStream (← IO.getStdin)
    | _, _ => pure ""
  return { stdin := stdin, file := fun path => if o.queryFile = some path then queryText else dataText }

/-- Prints the warnings and the output of a run and gives its exit code. -/
def runMain (arguments : List String) : IO UInt32 := do
  match Options.parse arguments with
  | .error .help => IO.print UsageError.help.message; return 0
  | .error .version => IO.print UsageError.version.message; return 0
  | .error e => IO.eprintln ("error: " ++ e.message); return 2
  | .ok options =>
    let inputs ← options.gather
    for warning in options.warnings inputs do IO.eprintln (" WARN " ++ warning)
    match options.run inputs with
    | .ok output => IO.print output; return 0
    | .error e => IO.eprintln ("Error: " ++ e.message); return 1

end RecordQuery.CommandLine

def main (arguments : List String) : IO UInt32 := RecordQuery.CommandLine.runMain arguments
