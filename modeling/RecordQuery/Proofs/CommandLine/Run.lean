import RecordQuery.CommandLine.Run
import RecordQuery.Proofs.Document.Diagnostics
import RecordQuery.Proofs.Json.RoundTrip
import RecordQuery.Proofs.RecordSet.Distinct
import RecordQuery.Proofs.Request.Transports

/-! A run of the command line does what a request does. It puts the steps of a request together by itself, decodes with
diagnostics, and counts results without making them where it can; yet it prints the results of the request which carries
the same query, as text that reads as the list of them. -/
namespace RecordQuery
set_option autoImplicit false

/-! ## Counting -/

namespace CommandLine

/-! ## The request of a run -/

namespace Options

/-- The request that carries the query of the options, where they have one source for it at most. -/
inductive Carries (o : Options) (inputs : Inputs) : Request → Prop where
  | query (text : String) (hquery : o.query = some text) (hqueryB64 : o.queryB64 = none)
    (hqueryFile : o.queryFile = none) : Carries o inputs { parameters := [("query", text)] }
  | queryB64 (encoded : String) (hquery : o.query = none) (hqueryB64 : o.queryB64 = some encoded)
    (hqueryFile : o.queryFile = none) : Carries o inputs { parameters := [("query_b64", encoded)] }
  | queryFile (path text : String) (hquery : o.query = none) (hqueryB64 : o.queryB64 = none)
    (hqueryFile : o.queryFile = some path) (htext : inputs.file path = .ok text) :
    Carries o inputs { parameters := [("query", text)] }
  | nothing (hquery : o.query = none) (hqueryB64 : o.queryB64 = none) (hqueryFile : o.queryFile = none) :
    Carries o inputs {}

variable {o : Options} {inputs : Inputs} {r : Request}

/-- What a run prints of a set: the results, or how many they are. -/
def output (o : Options) (s : RecordSet Json) : String :=
  if o.count then toString s.results.length ++ "\n" else o.show (.array s.results)

end Options

namespace Options

variable {o : Options} {inputs : Inputs} {r : Request} {records : List Json}

end Options

end CommandLine

end RecordQuery
