import RecordQuery.Document

/-! The options of the command line. Arguments are taken one by one; the value of an option is looked at when the
next option or the end of the arguments settles it, so that of two faults the one that is settled first counts. -/
namespace RecordQuery.CommandLine
set_option autoImplicit false

/-- What may be given on the command line. -/
inductive Argument where
  | data
  | query
  | queryB64
  | queryFile
  | shapePolicy
  | noNested
  | noGeometry
  | count
  | explain
  | compact
  | verbose
  | help
  | version
deriving DecidableEq, Repr

structure Options where
  /-- The file with the records; without one, or with a hyphen, they come from standard input. -/
  data : Option String := none
  query : Option String := none
  queryB64 : Option String := none
  queryFile : Option String := none
  shape : ShapePolicy := .reject
  noNested : Bool := false
  noGeometry : Bool := false
  count : Bool := false
  explain : Bool := false
  compact : Bool := false
  verbose : Nat := 0
deriving DecidableEq, Repr

/-- Why the arguments give no options to run with. -/
inductive UsageError where
  | unknownArgument
  | invalidValue
  | conflict
  | tooManyValues
  | help
  | version
deriving DecidableEq, Repr

namespace Argument

/-- The arguments that are given by name, with their names. -/
def named : List (String × Argument) :=
  [("query", query), ("query-b64", queryB64), ("query-file", queryFile), ("shape-policy", shapePolicy),
    ("no-nested", noNested), ("no-geometry", noGeometry), ("count", count), ("explain", explain),
    ("compact", compact), ("verbose", verbose), ("help", help), ("version", version)]

/-- The arguments that are given by a letter. -/
def lettered : List (Char × Argument) := [('v', verbose), ('h', help), ('V', version)]

def takesValue : Argument → Bool
  | data | query | queryB64 | queryFile | shapePolicy => true
  | _ => false

/-- Pairs of arguments that exclude each other. -/
def conflicts : List (Argument × Argument) :=
  [(query, queryB64), (query, queryFile), (queryB64, queryFile), (count, explain)]

end Argument

/-! ## Taking arguments -/

/-- An argument with a value whose turn has come but which is not settled yet; the value may still be to come. -/
structure Pending where
  argument : Argument
  value : Option String

/-- What the arguments so far have given. -/
structure Progress where
  options : Options := {}
  given : List Argument := []
  pending : Option Pending := none

namespace Progress

/-- Settles an argument with its value. It may be given once; a file must have a name. -/
def settle (p : Progress) (a : Argument) (value : String) : Except UsageError Progress :=
  if p.given.contains a then .error .conflict
  else do
    let o := p.options
    let options ← match a with
      | .query => .ok { o with query := some value }
      | .queryB64 => .ok { o with queryB64 := some value }
      | .queryFile => if value.isEmpty then .error .invalidValue else .ok { o with queryFile := some value }
      | .data => if value.isEmpty then .error .invalidValue else .ok { o with data := some value }
      | .shapePolicy =>
        if value = "reject" then .ok { o with shape := .reject }
        else if value = "truncate" then .ok { o with shape := .truncate }
        else .error .invalidValue
      | _ => .ok o
    .ok { p with options := options, given := a :: p.given }

/-- Settles what is pending, if anything is; a value that never came is an invalid one. -/
def settlePending (p : Progress) : Except UsageError Progress :=
  match p.pending with
  | none => .ok p
  | some ⟨a, some value⟩ => { p with pending := none }.settle a value
  | some ⟨_, none⟩ => .error .invalidValue

/-- Takes an argument without a value. All but the verbosity may be given once. -/
def takeFlag (p : Progress) (a : Argument) : Except UsageError Progress := do
  let p ← p.settlePending
  let o := p.options
  let once := fun (options : Options) =>
    if p.given.contains a then .error .conflict
    else Except.ok { p with options := options, given := a :: p.given }
  match a with
  | .help => .error .help
  | .version => .error .version
  | .verbose => .ok { p with options := { o with verbose := o.verbose + 1 } }
  | .noNested => once { o with noNested := true }
  | .noGeometry => once { o with noGeometry := true }
  | .count => once { o with count := true }
  | .explain => once { o with explain := true }
  | .compact => once { o with compact := true }
  | _ => .ok p

/-- Takes an argument given by name, perhaps with a value behind an equals sign. -/
def takeNamed (p : Progress) (text : List Char) : Except UsageError Progress := do
  let name := text.takeWhile (· ≠ '=')
  let value := match text.drop name.length with
    | [] => none
    | _ :: value => some (String.ofList value)
  match Argument.named.lookup (String.ofList name) with
  | none => .error .unknownArgument
  | some a =>
    if a.takesValue then
      let p ← p.settlePending
      match value with
      | some value => p.settle a value
      | none => .ok { p with pending := some ⟨a, none⟩ }
    else if value.isSome then .error .tooManyValues
    else p.takeFlag a

/-- Takes arguments given by letters. -/
def takeLetters (p : Progress) : List Char → Except UsageError Progress
  | [] => .ok p
  | c :: cs => do
    match Argument.lettered.lookup c with
    | none => .error .unknownArgument
    | some a => (← p.takeFlag a).takeLetters cs

/-- Takes an argument given by its place. There is one. -/
def takePlaced (p : Progress) (text : String) : Except UsageError Progress := do
  let earlier := p.given.contains .data || p.pending.any (·.argument == .data)
  if earlier then .error .unknownArgument
  else .ok { (← p.settlePending) with pending := some ⟨.data, some text⟩ }

/-- Takes the arguments in turn. After two hyphens alone, all that follow are given by their place. -/
def takeAll (p : Progress) : Bool → List String → Except UsageError Progress
  | _, [] => p.settlePending
  | true, text :: more => do (← p.takePlaced text).takeAll true more
  | false, text :: more => do
    match text.toList with
    | ['-', '-'] => p.takeAll true more
    | '-' :: '-' :: name => (← p.takeNamed name).takeAll false more
    | '-' :: c :: cs => (← p.takeLetters (c :: cs)).takeAll false more
    | _ =>
      match p.pending with
      | some ⟨a, none⟩ => takeAll { p with pending := some ⟨a, some text⟩ } false more
      | _ => (← p.takePlaced text).takeAll false more

end Progress

namespace Options

/-- The options that the arguments give. -/
def parse (arguments : List String) : Except UsageError Options := do
  let p ← Progress.takeAll {} false arguments
  if Argument.conflicts.any fun c => p.given.contains c.1 && p.given.contains c.2 then .error .conflict
  else .ok p.options

def settings (o : Options) : Settings :=
  { shape := o.shape, nestedGroups := !o.noNested, coerceGeometry := !o.noGeometry }

/-- How much is logged. -/
def logLevel (o : Options) : String :=
  match o.verbose with
  | 0 => "warn"
  | 1 => "info"
  | 2 => "debug"
  | _ => "trace"

end Options

end RecordQuery.CommandLine
