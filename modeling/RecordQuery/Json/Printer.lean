import RecordQuery.Json.Basic
import RecordQuery.Number.Shortest

/-! The written form of JSON values: on one line without blanks, or spread over lines with an indentation of two.
Members are written in the order in which they stand. -/
namespace RecordQuery.Json
set_option autoImplicit false

/-! ## Scalars -/

def hexDigit (n : Nat) : Char := Char.ofNat (if n < 10 then 48 + n else 87 + n)

/-- A character between quotes: quote, backslash and control characters are escaped. -/
def escapeChar (c : Char) : List Char :=
  match c.toNat with
  | 0x22 => ['\\', '"']
  | 0x5C => ['\\', '\\']
  | 0x08 => ['\\', 'b']
  | 0x09 => ['\\', 't']
  | 0x0A => ['\\', 'n']
  | 0x0C => ['\\', 'f']
  | 0x0D => ['\\', 'r']
  | n => if n < 0x20 then ['\\', 'u', '0', '0', hexDigit (n / 16), hexDigit (n % 16)] else [c]

def renderString (s : String) : String := String.ofList ('"' :: s.toList.flatMap escapeChar ++ ['"'])

def renderNumber : JsonNumber → String
  | .int n => toString n
  | .double x => x.value.text

/-! ## On one line -/

mutual

/-- The value on one line. -/
def render : Json → String
  | null => "null"
  | bool b => if b then "true" else "false"
  | number n => renderNumber n
  | string s => renderString s
  | array items => "[" ++ renderItems items ++ "]"
  | object members => "\x7b" ++ renderMembers members ++ "\x7d"

def renderItems : List Json → String
  | [] => ""
  | [x] => render x
  | x :: xs => render x ++ "," ++ renderItems xs

def renderMembers : List (String × Json) → String
  | [] => ""
  | [(k, v)] => renderString k ++ ":" ++ render v
  | (k, v) :: ms => renderString k ++ ":" ++ render v ++ "," ++ renderMembers ms

end

/-! ## Over several lines -/

/-- A new line at a level of nesting. -/
def newLine (level : Nat) : String := "\n" ++ String.ofList (List.replicate (2 * level) ' ')

mutual

/-- The value spread over lines, its inner lines one level deeper than `level`; empty containers stay closed. -/
def spread (level : Nat) : Json → String
  | null => "null"
  | bool b => if b then "true" else "false"
  | number n => renderNumber n
  | string s => renderString s
  | array [] => "[]"
  | array (x :: xs) =>
    "[" ++ newLine (level + 1) ++ spread (level + 1) x ++ spreadItems (level + 1) xs ++ newLine level ++ "]"
  | object [] => "\x7b\x7d"
  | object ((k, v) :: ms) =>
    "\x7b" ++ newLine (level + 1) ++ renderString k ++ ": " ++ spread (level + 1) v ++
      spreadMembers (level + 1) ms ++ newLine level ++ "\x7d"

/-- The items after the first, each after a comma on a line of its own. -/
def spreadItems (level : Nat) : List Json → String
  | [] => ""
  | x :: xs => "," ++ newLine level ++ spread level x ++ spreadItems level xs

def spreadMembers (level : Nat) : List (String × Json) → String
  | [] => ""
  | (k, v) :: ms =>
    "," ++ newLine level ++ renderString k ++ ": " ++ spread level v ++ spreadMembers level ms

end

end RecordQuery.Json
