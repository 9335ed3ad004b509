import RecordQuery.Json.Printer
import RecordQuery.Number.Rounding
import RecordQuery.Text.Basic

/-! Reading JSON text. A fault names its cause and a place in the text, as a line and the bytes counted on that
line. The place depends on how the text arrives: a text that lies ready is faulted at the byte reached or the one
looked at, a stream at the last byte taken from it, looked at or used.

Nesting is limited, integers of 64 bits are kept exactly, and every other number becomes the nearest double. -/
namespace RecordQuery.Json
set_option autoImplicit false

/-! ## Faults -/

/-- Why a text is no JSON value, or not one of the expected kind. -/
inductive Cause where
  | endInList
  | endInObject
  | endInString
  | endInValue
  | expectedColon
  | expectedCommaOrBracket
  | expectedCommaOrBrace
  | expectedIdent
  | expectedValue
  | invalidEscape
  | invalidNumber
  | numberOutOfRange
  | loneSurrogate
  | keyNotString
  | trailingComma
  | trailingCharacters
  | truncatedEscape
  | controlCharacter
  | nestedTooDeep
  /-- The value, of which an object shows only that it is one, stands where a list should. -/
  | notAList (found : Json)
deriving Repr

/-- What was found where another kind of value was expected. -/
def found : Json → String
  | null => "null"
  | bool b => "boolean `" ++ (if b then "true" else "false") ++ "`"
  | number (.int n) => "integer `" ++ renderNumber (.int n) ++ "`"
  | number (.double x) => "floating point `" ++ renderNumber (.double x) ++ "`"
  | string s => "string " ++ Text.quoted s
  | array _ => "sequence"
  | object _ => "map"

def Cause.message : Cause → String
  | endInList => "EOF while parsing a list"
  | endInObject => "EOF while parsing an object"
  | endInString => "EOF while parsing a string"
  | endInValue => "EOF while parsing a value"
  | expectedColon => "expected `:`"
  | expectedCommaOrBracket => "expected `,` or `]`"
  | expectedCommaOrBrace => "expected `,` or `\x7d`"
  | expectedIdent => "expected ident"
  | expectedValue => "expected value"
  | invalidEscape => "invalid escape"
  | invalidNumber => "invalid number"
  | numberOutOfRange => "number out of range"
  | loneSurrogate => "lone leading surrogate in hex escape"
  | keyNotString => "key must be a string"
  | trailingComma => "trailing comma"
  | trailingCharacters => "trailing characters"
  | truncatedEscape => "unexpected end of hex escape"
  | controlCharacter => "control character (\\u0000-\\u001F) found while parsing a string"
  | nestedTooDeep => "recursion limit exceeded"
  | notAList v => "invalid type: " ++ found v ++ ", expected a sequence"

/-- How a text arrives: all at once, or byte by byte. -/
inductive Delivery where
  | whole
  | stream
deriving DecidableEq, Repr

/-- A cause with the count of bytes before the place it is reported at, for either delivery. -/
structure Fault where
  cause : Cause
  whole : Nat
  stream : Nat
deriving Repr

/-- A fault as it is reported. -/
structure ReadError where
  cause : Cause
  line : Nat
  column : Nat
deriving Repr

def ReadError.message (e : ReadError) : String :=
  e.cause.message ++ " at line " ++ toString e.line ++ " column " ++ toString e.column

/-- Line and column after the given number of bytes: lines count from 1, columns count the bytes since the line
began. -/
def lineColumn : List Char → Nat → Nat → Nat → Nat × Nat
  | [], _, line, column => (line, column)
  | c :: cs, bytes, line, column =>
    if bytes = 0 then (line, column)
    else if c = '\n' then lineColumn cs (bytes - 1) (line + 1) 0
    else if bytes < c.utf8Size then (line, column + bytes)
    else lineColumn cs (bytes - c.utf8Size) line (column + c.utf8Size)

def Fault.report (text : List Char) (delivery : Delivery) (f : Fault) : ReadError :=
  let (line, column) := lineColumn text (if delivery = .whole then f.whole else f.stream) 1 0
  ⟨f.cause, line, column⟩

/-! ## Places in the text -/

/-- What is left of the text, and the bytes used up before it. -/
structure Cursor where
  rest : List Char
  used : Nat
deriving Repr

namespace Cursor

/-- One more if there is a next byte to look at. -/
def ahead (c : Cursor) : Nat := if c.rest.isEmpty then c.used else c.used + 1

/-- A fault at the last byte used. -/
def faultHere (c : Cursor) (cause : Cause) : Fault := ⟨cause, c.used, c.used⟩

/-- A fault some bytes further on, all of them used. -/
def faultAfter (c : Cursor) (bytes : Nat) (cause : Cause) : Fault := ⟨cause, c.used + bytes, c.used + bytes⟩

/-- A fault at the byte looked at. -/
def faultAhead (c : Cursor) (cause : Cause) : Fault := ⟨cause, c.ahead, c.ahead⟩

/-- A fault at the last byte used, the next one having been looked at. -/
def faultLooking (c : Cursor) (cause : Cause) : Fault := ⟨cause, c.used, c.ahead⟩

/-- The place behind the next character, whose remainder of the text is given. -/
def past (c : Cursor) (next : Char) (rest : List Char) : Cursor := ⟨rest, c.used + next.utf8Size⟩

end Cursor

/-- A reader takes a value off the front of the text. -/
abbrev Reader (α : Type) := Cursor → Except Fault (α × Cursor)

def isSpace (c : Char) : Bool := c == ' ' || c == '\n' || c == '\t' || c == '\r'

/-- The place of the next character that is no space. -/
def skipSpace (c : Cursor) : Cursor :=
  let spaces := c.rest.takeWhile isSpace
  ⟨c.rest.drop spaces.length, c.used + spaces.length⟩

/-! ## Words and numbers -/

/-- Reads the rest of a word whose first letter has been used. -/
def readWord (value : Json) : List Char → Reader Json
  | [], c => .ok (value, c)
  | expected :: more, c =>
    match c.rest with
    | [] => .error (c.faultHere .endInValue)
    | d :: rest =>
      if d = expected then readWord value more (c.past d rest) else .error (c.faultAfter 1 .expectedIdent)

/-- The leading digits and the place behind them. -/
def takeDigits (c : Cursor) : List Char × Cursor :=
  let digits := c.rest.takeWhile Char.isDigit
  (digits, ⟨c.rest.drop digits.length, c.used + digits.length⟩)

def digitsValue (digits : List Char) : Nat := digits.foldl (fun n d => 10 * n + (d.toNat - 48)) 0

/-- The digits before the point: a zero stands alone. -/
def readWholePart : Reader (List Char) := fun c =>
  match c.rest with
  | [] => .error (c.faultHere .endInValue)
  | '0' :: rest =>
    let next := c.past '0' rest
    match rest with
    | d :: _ => if d.isDigit then .error (next.faultAhead .invalidNumber) else .ok (['0'], next)
    | [] => .ok (['0'], next)
  | d :: _ => if d.isDigit then .ok (takeDigits c) else .error (c.faultAfter 1 .invalidNumber)

/-- The digits after a point, if there is one. -/
def readFraction : Reader (Option (List Char)) := fun c =>
  match c.rest with
  | '.' :: rest =>
    let (digits, next) := takeDigits (c.past '.' rest)
    if digits.isEmpty then
      .error (next.faultAhead (if next.rest.isEmpty then .endInValue else .invalidNumber))
    else .ok (some digits, next)
  | _ => .ok (none, c)

/-- An exponent: its value, or that its absolute value does not fit 31 bits. -/
inductive Exponent where
  | small (e : Int)
  | huge (negative : Bool)

/-- The digits of an exponent from the second on. One too large is settled at the digit that makes it so. -/
def readExponentDigits (negative : Bool) : List Char → Nat → Nat → Exponent × Cursor
  | [], used, e => (.small (if negative then -(e : Int) else e), ⟨[], used⟩)
  | d :: rest, used, e =>
    if !d.isDigit then (.small (if negative then -(e : Int) else e), ⟨d :: rest, used⟩)
    else if 0x80000000 ≤ 10 * e + (d.toNat - 48) then (.huge negative, ⟨rest, used + 1⟩)
    else readExponentDigits negative rest (used + 1) (10 * e + (d.toNat - 48))

def readExponent : Reader (Option Exponent) := fun c =>
  match c.rest with
  | [] => .ok (none, c)
  | e :: rest =>
    if e = 'e' ∨ e = 'E' then
      let start := c.past e rest
      let (negative, digits) : Bool × Cursor := match start.rest with
        | '+' :: more => (false, start.past '+' more)
        | '-' :: more => (true, start.past '-' more)
        | _ => (false, start)
      match digits.rest with
      | [] => .error (digits.faultHere .endInValue)
      | d :: more =>
        if d.isDigit then
          let (exponent, next) := readExponentDigits negative more (digits.used + 1) (d.toNat - 48)
          .ok (some exponent, next)
        else .error (digits.faultAfter 1 .invalidNumber)
    else .ok (none, c)

/-- The integer that digits and a sign write, when it fits 64 bits, signed or not. A negative zero is no integer. -/
def exactInteger? (negative : Bool) (n : Nat) : Option Int :=
  if negative then if n = 0 ∨ -(n : Int) < Int64.minValue.toInt then none else some (-(n : Int))
  else if n < UInt64.size then some n
  else none

/-- The double that a number comes to. A value beyond the finite doubles is a fault. -/
def finiteNumber (x : Binary64) : Reader Json := fun c =>
  match x.finite? with
  | some x => .ok (.number (.double x), c)
  | none => .error (c.faultLooking .numberOutOfRange)

/-- Reads a number whose sign has been used: a double, unless it is written as an integer that can be kept. -/
def readNumber (negative : Bool) : Reader Json := fun c => do
  let (whole, c) ← readWholePart c
  let (fraction, c) ← readFraction c
  let (exponent, c) ← readExponent c
  match fraction, exponent with
  | none, none => match exactInteger? negative (digitsValue whole) with
    | some n => .ok (.number (.int n), c)
    | none => finiteNumber (Binary64.ofQuotient negative (digitsValue whole) 1) c
  | _, _ =>
    let places := fraction.getD []
    let digits := digitsValue (whole ++ places)
    match exponent with
    | some (.huge false) =>
      if digits = 0 then finiteNumber (Binary64.ofSignMagnitude negative 0) (takeDigits c).2
      else .error (c.faultHere .numberOutOfRange)
    | some (.huge true) => finiteNumber (Binary64.ofSignMagnitude negative 0) (takeDigits c).2
    | some (.small e) => finiteNumber (Binary64.ofDecimal negative digits (e - places.length)) c
    | none => finiteNumber (Binary64.ofDecimal negative digits (-(places.length : Int))) c

/-! ## Strings -/

def hexValue? (c : Char) : Option Nat :=
  if c.isDigit then some (c.toNat - 48)
  else if 'a' ≤ c ∧ c ≤ 'f' then some (c.toNat - 87)
  else if 'A' ≤ c ∧ c ≤ 'F' then some (c.toNat - 55)
  else none

/-- The number that four hexadecimal digits write. -/
def hexQuad? (a b c d : Char) : Option Nat := do
  return (((← hexValue? a) * 16 + (← hexValue? b)) * 16 + (← hexValue? c)) * 16 + (← hexValue? d)

/-- The fault of four characters that should have been hexadecimal digits. -/
def hexFault (c : Cursor) : Fault :=
  let bytes := (c.rest.take 4).foldl (fun n d => n + d.utf8Size) 0
  if bytes < 4 then c.faultAfter bytes .endInString else c.faultAfter 4 .invalidEscape

/-- The character that a single letter after a backslash stands for. -/
def simpleEscape? : Char → Option Char
  | '"' => some '"'
  | '\\' => some '\\'
  | '/' => some '/'
  | 'b' => some '\x08'
  | 'f' => some '\x0c'
  | 'n' => some '\n'
  | 'r' => some '\r'
  | 't' => some '\t'
  | _ => none

/-- The character that a pair of surrogates stands for. -/
def pairValue (high low : Nat) : Char := Char.ofNat (0x10000 + (high - 0xD800) * 1024 + (low - 0xDC00))

def isHighSurrogate (n : Nat) : Bool := 0xD800 ≤ n && n < 0xDC00

def isLowSurrogate (n : Nat) : Bool := 0xDC00 ≤ n && n < 0xE000

/-- Reads the rest of a string up to its closing quote; `done` holds what came before, backwards. -/
def readChars : List Char → Nat → List Char → Except Fault (String × Cursor)
  | [], used, _ => .error ((Cursor.mk [] used).faultHere .endInString)
  | '"' :: rest, used, done => .ok (String.ofList done.reverse, ⟨rest, used + 1⟩)
  | ['\\'], used, _ => .error ((Cursor.mk [] (used + 1)).faultHere .endInString)
  | '\\' :: 'u' :: a :: b :: c :: d :: rest, used, done =>
    match hexQuad? a b c d with
    | none => .error (hexFault ⟨a :: b :: c :: d :: rest, used + 2⟩)
    | some n =>
      if isLowSurrogate n then .error ((Cursor.mk rest (used + 6)).faultHere .loneSurrogate)
      else if !isHighSurrogate n then readChars rest (used + 6) (Char.ofNat n :: done)
      else match rest with
        | [] => .error ((Cursor.mk [] (used + 6)).faultHere .endInString)
        | '\\' :: rest =>
          match rest with
          | [] => .error ((Cursor.mk [] (used + 7)).faultHere .endInString)
          | 'u' :: rest =>
            match rest with
            | a :: b :: c :: d :: rest =>
              match hexQuad? a b c d with
              | none => .error (hexFault ⟨a :: b :: c :: d :: rest, used + 8⟩)
              | some m =>
                if isLowSurrogate m then readChars rest (used + 12) (pairValue n m :: done)
                else .error ((Cursor.mk rest (used + 12)).faultHere .loneSurrogate)
            | rest => .error (hexFault ⟨rest, used + 8⟩)
          | rest => .error ((Cursor.mk rest (used + 7)).faultAfter 1 .truncatedEscape)
        | rest => .error ((Cursor.mk rest (used + 6)).faultAfter 1 .truncatedEscape)
  | '\\' :: 'u' :: rest, used, _ => .error (hexFault ⟨rest, used + 2⟩)
  | '\\' :: e :: rest, used, done =>
    match simpleEscape? e with
    | some c => readChars rest (used + 2) (c :: done)
    | none => .error ((Cursor.mk rest (used + 1)).faultAfter 1 .invalidEscape)
  | c :: rest, used, done =>
    if c.toNat < 0x20 then .error ((Cursor.mk rest used).faultAfter 1 .controlCharacter)
    else readChars rest (used + c.utf8Size) (c :: done)

def readString : Reader String := fun c => readChars c.rest c.used []

/-! ## Containers -/

/-- Reads the items of a list whose bracket has been used, each with `item`. The fuel bounds their number. -/
def readItems (item : Reader Json) : Nat → List Json → Reader (List Json)
  | 0, _, c => .error (c.faultAhead .endInList)
  | fuel + 1, done, c =>
    let c := skipSpace c
    match c.rest with
    | [] => .error (c.faultAhead .endInList)
    | ']' :: rest => .ok (done.reverse, c.past ']' rest)
    | d :: rest =>
      if done.isEmpty then do
        let (value, next) ← item c
        readItems item fuel (value :: done) next
      else if d = ',' then
        let c := skipSpace (c.past d rest)
        match c.rest with
        | [] => .error (c.faultAhead .endInValue)
        | ']' :: _ => .error (c.faultAhead .trailingComma)
        | _ => do
          let (value, next) ← item c
          readItems item fuel (value :: done) next
      else .error (c.faultAhead .expectedCommaOrBracket)

/-- Reads one member at the quote of its key. -/
def readMember (item : Reader Json) : Reader (String × Json) := fun c => do
  let (key, c) ← readString ⟨c.rest.tail, c.used + 1⟩
  let c := skipSpace c
  match c.rest with
  | [] => .error (c.faultAhead .endInObject)
  | ':' :: rest =>
    let (value, c) ← item (c.past ':' rest)
    .ok ((key, value), c)
  | _ => .error (c.faultAhead .expectedColon)

/-- Reads the members of an object whose brace has been used. A key that comes again replaces its member. -/
def readMembers (item : Reader Json) : Nat → Bool → List (String × Json) → Reader (List (String × Json))
  | 0, _, _, c => .error (c.faultAhead .endInObject)
  | fuel + 1, first, done, c =>
    let c := skipSpace c
    let read := fun (c : Cursor) => do
      let ((key, value), next) ← readMember item c
      readMembers item fuel false (insertMember key value done) next
    match c.rest with
    | [] => .error (c.faultAhead .endInObject)
    | '\x7d' :: rest => .ok (done, c.past '\x7d' rest)
    | d :: rest =>
      if first then if d = '"' then read c else .error (c.faultAhead .keyNotString)
      else if d = ',' then
        let c := skipSpace (c.past d rest)
        match c.rest with
        | [] => .error (c.faultAhead .endInValue)
        | '"' :: _ => read c
        | '\x7d' :: _ => .error (c.faultAhead .trailingComma)
        | _ => .error (c.faultAhead .keyNotString)
      else .error (c.faultAhead .expectedCommaOrBrace)

/-- Reads a list whose bracket comes next, at a place where `depth` more levels of nesting are allowed. -/
def readList (item : Reader Json) : Reader (List Json) := fun c =>
  readItems item c.rest.length [] ⟨c.rest.tail, c.used + 1⟩

def readObject (item : Reader Json) : Reader (List (String × Json)) := fun c =>
  readMembers item c.rest.length true [] ⟨c.rest.tail, c.used + 1⟩

/-- Reads a value with at most `depth` levels of containers in it. -/
def readValue : Nat → Reader Json
  | depth, c =>
    let c := skipSpace c
    match c.rest with
    | [] => .error (c.faultAhead .endInValue)
    | d :: rest =>
      if d = 'n' then readWord .null ['u', 'l', 'l'] (c.past d rest)
      else if d = 't' then readWord (.bool true) ['r', 'u', 'e'] (c.past d rest)
      else if d = 'f' then readWord (.bool false) ['a', 'l', 's', 'e'] (c.past d rest)
      else if d = '-' then readNumber true (c.past d rest)
      else if d.isDigit then readNumber false c
      else if d = '"' then (readString (c.past d rest)).map fun (s, c) => (.string s, c)
      else if d = '[' then
        match depth with
        | 0 => .error (c.faultAhead .nestedTooDeep)
        | depth + 1 => (readList (readValue depth) c).map fun (items, c) => (.array items, c)
      else if d = '\x7b' then
        match depth with
        | 0 => .error (c.faultAhead .nestedTooDeep)
        | depth + 1 => (readObject (readValue depth) c).map fun (members, c) => (.object members, c)
      else .error (c.faultAhead .expectedValue)

/-! ## Whole texts -/

/-- The levels of nesting that a text may have. -/
def maxDepth : Nat := 127

/-- Applies a reader to a whole text, after which only spaces may follow. -/
def readWhole {α : Type} (reader : Reader α) (delivery : Delivery) (text : String) : Except ReadError α :=
  let result : Except Fault α := do
    let (value, c) ← reader ⟨text.toList, 0⟩
    let c := skipSpace c
    if c.rest.isEmpty then .ok value else .error (c.faultAhead .trailingCharacters)
  result.mapError (·.report text.toList delivery)

/-- The value that a text writes. -/
def parse (text : String) : Except ReadError Json := readWhole (readValue maxDepth) .whole text

/-- Reads a list at the outermost level. Of another value as much is read as its kind takes to tell. -/
def readOuterList : Reader (List Json) := fun c => do
  let c := skipSpace c
  match c.rest with
  | '[' :: _ => readList (readValue (maxDepth - 1)) c
  | '\x7b' :: _ => .error (c.faultLooking (.notAList (.object [])))
  | d :: _ =>
    let (value, next) ← readValue maxDepth c
    let numeric := d = '-' ∨ d.isDigit
    .error (if numeric then next.faultLooking (.notAList value) else next.faultHere (.notAList value))
  | [] => .error (c.faultAhead .endInValue)

/-- The items of the list that a streamed text writes. -/
def parseList (text : String) : Except ReadError (List Json) := readWhole readOuterList .stream text

end RecordQuery.Json
