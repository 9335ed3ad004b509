import RecordQuery.Unicode.CaseTable
import RecordQuery.Unicode.Visibility

/-! Texts as characters: the white space at their ends, the segments of paths, the lowercase, and the form between
quotes. -/
namespace RecordQuery.Text
set_option autoImplicit false

/-! ## White space -/

/-- The characters with the white space property. -/
def isBlank (c : Char) : Bool :=
  let n := c.toNat
  (9 ≤ n && n ≤ 13) || n == 0x20 || n == 0x85 || n == 0xA0 || n == 0x1680 || (0x2000 ≤ n && n ≤ 0x200A) ||
    n == 0x2028 || n == 0x2029 || n == 0x202F || n == 0x205F || n == 0x3000

/-- The characters without the blanks at both ends. -/
def trimBlank (cs : List Char) : List Char :=
  ((cs.dropWhile isBlank).reverse.dropWhile isBlank).reverse

/-! ## Segments

Two underscores part the segments of a path. Reading from the left, a run of underscores is cut as early as possible;
the last cut, on its own, is the rightmost place where two underscores stand together. -/

/-- The text between segments. -/
def separator : List Char := ['_', '_']

/-- The segments of a path, cut from the left; there is at least one. -/
def segments : List Char → List (List Char)
  | '_' :: '_' :: cs => [] :: segments cs
  | c :: cs =>
    match segments cs with
    | s :: ss => (c :: s) :: ss
    | [] => [[c]]
  | [] => [[]]

/-- What stands before and after the rightmost separator. -/
def lastCut? : List Char → Option (List Char × List Char)
  | [] => none
  | c :: cs =>
    match lastCut? cs with
    | some (before, after) => some (c :: before, after)
    | none =>
      match c, cs with
      | '_', '_' :: after => some ([], after)
      | _, _ => none

/-- The path that leads through `outer` and on through `inner`. -/
def joinPath (outer inner : String) : String := outer ++ "__" ++ inner

/-! ## Lowercase

The full mapping of Unicode, one character at a time, except that a capital sigma becomes the final form at the end of
a word. -/

/-- The lowercase of one character; the dotted capital I alone becomes two. -/
def lowerChar (c : Char) : List Char :=
  if c.toNat < 128 then [c.toLower]
  else if c.toNat = 0x130 then ['i', Char.ofNat 0x307]
  else match Unicode.lowercaseRuns.findSome? (·.map? c.toNat) with
    | some d => [Char.ofNat d]
    | none => [c]

/-- Whether the first character that is not ignored for case is a cased one. -/
def startsCased : List Char → Bool
  | [] => false
  | c :: cs => if Unicode.caseIgnorable.contains c.toNat then startsCased cs else Unicode.cased.contains c.toNat

/-- The form of a sigma between the characters before it, nearest first, and those after it: final when a letter
stands before and none after. -/
def lowerSigma (before after : List Char) : Char :=
  if startsCased before && !startsCased after then 'ς' else 'σ'

/-- The lowercase of what follows the given characters, which are listed nearest first. -/
def lowerAfter (before : List Char) : List Char → List Char
  | [] => []
  | c :: cs =>
    let here := if c = 'Σ' then [lowerSigma before cs] else lowerChar c
    here ++ lowerAfter (c :: before) cs

def lowercase (s : String) : String := String.ofList (lowerAfter [] s.toList)

/-! ## Quotes

Text in double quotes has an escape for every character that does not show by itself: the quote, the backslash, control
characters, blanks other than the space, unassigned characters, marks that extend the character before them, and
letters that a display may leave out. -/

/-- Marks that join the character before them but have a width of their own: those of voiced and half-voiced sounds
in halfwidth script. -/
def soundMarks : Unicode.Ranges := [(0xFF9E, 0xFF9F)]

/-- Whether a character does not show by itself. -/
def isHidden (c : Char) : Bool :=
  Unicode.formless.contains c.toNat || Unicode.defaultIgnorable.contains c.toNat ||
    (Unicode.graphemeExtend.contains c.toNat && !soundMarks.contains c.toNat)

/-- The form of one character between quotes. -/
def quoteChar (c : Char) : List Char :=
  if c = '"' then ['\\', '"']
  else if c = '\\' then ['\\', '\\']
  else if c = '\n' then ['\\', 'n']
  else if c = '\r' then ['\\', 'r']
  else if c = '\t' then ['\\', 't']
  else if c = '\x00' then ['\\', '0']
  else if 32 ≤ c.toNat ∧ c.toNat < 127 then [c]
  else if isHidden c then
    ['\\', 'u', '{'] ++ Nat.toDigits 16 c.toNat ++ ['}']
  else [c]

def quoted (s : String) : String := String.ofList ('"' :: s.toList.flatMap quoteChar ++ ['"'])

end RecordQuery.Text
