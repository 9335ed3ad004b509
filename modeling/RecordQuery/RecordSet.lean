import RecordQuery.Builder
import RecordQuery.Clause.Compile
import RecordQuery.Clause.Match
import RecordQuery.OrderBy
import RecordQuery.Text.Basic

/-! Sets of records: a selection of rows over a list of records, with the sort keys and the wish for distinct
results that apply when the results are made. Rows are chosen as each operation is applied, and stand in increasing
order. -/
namespace RecordQuery
set_option autoImplicit false

/-- A list of records, with an identity that stands for the place where the list begins. -/
structure Source (R : Type) where
  identity : Nat
  records : List R

/-- Whether two sources are the same list: both begin at one place and have one length. Lists without records are taken
to begin at one place. -/
def Source.same {R : Type} (a b : Source R) : Bool :=
  a.records.length == b.records.length && (a.identity == b.identity || a.records.isEmpty)

structure RecordSet (R : Type) where
  source : Source R
  /-- The selected rows, by their place in the source. -/
  rows : List Nat
  orderings : List OrderBy
  distinct : Bool

namespace RecordSet

variable {R : Type}

/-- The set of all records of a source. -/
def ofSource (source : Source R) : RecordSet R := ⟨source, List.range source.records.length, [], false⟩

/-- The set without the rows whose records do not pass. -/
def keep (s : RecordSet R) (passes : R → Bool) : RecordSet R :=
  { s with rows := s.rows.filter fun row => s.source.records[row]?.any passes }

/-! ## Rows of two sets -/

/-- The rows of either list in increasing order: all of them sorted, then freed of repetitions, which stand side by
side. -/
def mergeRows (rows others : List Nat) : List Nat := ((rows ++ others).mergeSort).eraseReps

/-! ## Operations -/

variable [Record R]

/-- Refuses a path that starts at no declared field. -/
def checkField (R : Type) [Record R] (path : String) : Except QueryError Unit :=
  if Record.knows R path then .ok () else .error (.unknownField path)

def checkFields (R : Type) [Record R] : List String → Except QueryError Unit
  | [] => .ok ()
  | path :: paths => do
    checkField R path
    checkFields R paths

/-- The clauses of a list of conditions, which read declared fields alone. -/
def compile (R : Type) [Record R] (conditions : List Condition) : Except QueryError (List Clause) := do
  let clauses ← Clause.compileAll conditions
  checkFields R (clauses.flatMap Clause.reads)
  .ok clauses

/-- Whether a record meets all the clauses. -/
def meets (clauses : List Clause) (r : R) : Bool := clauses.all (·.holds r)

def filter (conditions : List Condition) (s : RecordSet R) : Except QueryError (RecordSet R) := do
  let clauses ← compile R conditions
  .ok (s.keep (meets clauses))

/-- Drops the records that meet all the conditions; one that fails a single condition stays. -/
def exclude (conditions : List Condition) (s : RecordSet R) : Except QueryError (RecordSet R) := do
  let clauses ← compile R conditions
  .ok (s.keep fun r => !meets clauses r)

def orderBy (entries : List String) (s : RecordSet R) : Except QueryError (RecordSet R) := do
  let orderings := entries.filterMap OrderBy.parse?
  checkFields R (orderings.map OrderBy.field)
  .ok { s with orderings := orderings }

def union (s t : RecordSet R) : Except QueryError (RecordSet R) :=
  if s.source.same t.source then
    .ok { s with rows := mergeRows s.rows t.rows, distinct := s.distinct || t.distinct }
  else .error .foreignRecords

instance : QueryBuilder (RecordSet R) QueryError where
  all s := .ok s
  none s := .ok { s with rows := [] }
  filter := filter
  exclude := exclude
  orderBy := orderBy
  distinct s := .ok { s with distinct := true }
  union := union

/-! ## Results -/

/-- The first of each run of equal elements, wherever the others stand. -/
def firstOccurrences {α : Type} (same : α → α → Bool) : List α → List α → List α
  | _, [] => []
  | seen, x :: xs =>
    if seen.any (same · x) then firstOccurrences same seen xs
    else x :: firstOccurrences same (seen ++ [x]) xs

/-- The selected records with their rows. -/
def selected (s : RecordSet R) : List (Nat × R) :=
  s.rows.filterMap fun row => s.source.records[row]?.map fun r => (row, r)

/-- The selected records in the order of the sort keys, ties in the order of the source. -/
def sorted (s : RecordSet R) : List (Nat × R) :=
  if s.orderings.isEmpty then s.selected
  else stableSort (fun a b => OrderBy.compareByAll s.orderings a.2 b.2) s.selected

variable [BEq R]

/-- The results with their rows: in order, and the first of equal ones where distinct results are wanted. -/
def resultRows (s : RecordSet R) : List (Nat × R) :=
  if s.distinct then firstOccurrences (fun a b => a.2 == b.2) [] s.sorted else s.sorted

def results (s : RecordSet R) : List R := s.resultRows.map Prod.snd

/-- The number of results. -/
def count (s : RecordSet R) : Nat := if s.distinct then s.resultRows.length else s.rows.length

end RecordSet

/-! ## Inspection -/

/-- A list in brackets. -/
def bracketed (items : List String) : String := "[" ++ ", ".intercalate items ++ "]"

def OrderBy.inspect (o : OrderBy) : String :=
  let direction := match o.direction with
    | .ascending => "Asc"
    | .descending => "Desc"
  "OrderBy \x7b field: " ++ Text.quoted o.field ++ ", dir: " ++ direction ++ " \x7d"

/-- What a set consists of, on one line. -/
def RecordSet.inspect {R : Type} (s : RecordSet R) : String :=
  "QuerySet \x7b items: " ++ toString s.source.records.length ++
    ", rows: " ++ bracketed (s.rows.map toString) ++
    ", orderings: " ++ bracketed (s.orderings.map OrderBy.inspect) ++
    ", distinct: " ++ (if s.distinct then "true" else "false") ++ " \x7d"

end RecordQuery
