import RecordQuery.Document
import RecordQuery.Json.Reader
import RecordQuery.Text.Base64
import RecordQuery.Text.Basic

/-! Query documents in requests. A document comes as text in one parameter, as encoded text in another, or in the
body; the first of these that is there counts, whatever the others hold. -/
namespace RecordQuery
set_option autoImplicit false

/-- What a request carries: parameters, of which the last of one name counts, and perhaps a body. -/
structure Request where
  parameters : List (String × String) := []
  body : Option Json := none

/-- The parameter with the given name. -/
def Request.parameter? (r : Request) (name : String) : Option String := r.parameters.reverse.lookup name

/-- Why a request has no document that can be read. -/
inductive RequestError where
  | invalidJson (why : Json.ReadError)
  | invalidBase64 (why : Text.Base64Error)
  | notText
deriving Repr

def RequestError.message : RequestError → String
  | invalidJson why => "query is not valid JSON: " ++ why.message
  | invalidBase64 why => "query_b64 is not valid base64: " ++ why.message
  | notText => "query_b64 does not decode to UTF-8 text"

/-- The document that a text writes. -/
def readDocument (text : String) : Except RequestError Json := (Json.parse text).mapError .invalidJson

/-- The bytes that an encoding stands for, in the standard alphabet or else in the one for addresses. If it is in
neither, the fault is that of the standard alphabet. -/
def decodeBytes (symbols : List UInt8) : Except Text.Base64Error (List UInt8) :=
  match Text.Base64Alphabet.standard.decode symbols with
  | .ok bytes => .ok bytes
  | .error e => match Text.Base64Alphabet.urlSafe.decode symbols with
    | .ok bytes => .ok bytes
    | .error _ => .error e

/-- The text that an encoding stands for, blanks around it left out. -/
def decodeText (encoded : String) : Except RequestError String := do
  let symbols := (Text.trimBlank encoded.toList).flatMap String.utf8EncodeChar
  let bytes ← (decodeBytes symbols).mapError .invalidBase64
  match String.fromUTF8? ⟨bytes.toArray⟩ with
  | some text => .ok text
  | none => .error .notText

/-- The document of a request, if it carries one. -/
def Request.document (r : Request) : Except RequestError (Option Json) :=
  match r.parameter? "query" with
  | some text => some <$> readDocument text
  | none => match r.parameter? "query_b64" with
    | some encoded => do some <$> readDocument (← decodeText encoded)
    | none => match r.body.bind (·.get? "query") with
      | none => .ok none
      | some .null => .ok none
      | some (.string text) => some <$> readDocument text
      | some document => .ok (some document)

/-- Why a request could not be applied. -/
inductive RequestFailure (ε : Type) where
  | request (why : RequestError)
  | builder (why : ε)

/-- The message of a failure, where the builder's errors have messages. -/
def RequestFailure.message {ε : Type} (builderMessage : ε → String) : RequestFailure ε → String
  | request why => why.message
  | builder why => "query builder failed: " ++ builderMessage why

/-- Applies the document of a request to a builder, which stays as it is where there is none. -/
def Request.apply {B ε : Type} [QueryBuilder B ε] (r : Request) (s : Settings) (b : B) :
    Except (RequestFailure ε) B := do
  let document ← r.document.mapError .request
  (applyDocument s document b).mapError .builder

end RecordQuery
