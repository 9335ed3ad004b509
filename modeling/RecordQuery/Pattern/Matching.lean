import RecordQuery.Pattern.Basic
import RecordQuery.Pattern.Classes

/-! Where a pattern matches in a text. A pattern takes positions to positions: those where it may begin to those where
it may end. Sets of positions are naturals with a bit for each, so a choice is a union, a sequence is a composition
and a repetition is followed until nothing new is reached. -/
namespace RecordQuery.Pattern
set_option autoImplicit false

/-! ## Conditions on positions -/

def isWordCharacter (ascii : Bool) (c : Char) : Bool :=
  if ascii || c.toNat < 0x80 then asciiWordCharacters.contains c.toNat else wordCharacters.contains c.toNat

/-- Whether a neighbour is there and is a word character. -/
def besideWord (ascii : Bool) (c : Option Char) : Bool := c.any (isWordCharacter ascii)

/-- Whether an assertion holds between the character before and the one after. -/
def Assertion.holds : Assertion → Option Char → Option Char → Bool
  | textStart, before, _ => before.isNone
  | textEnd, _, after => after.isNone
  | lineStart, before, _ => before.isNone || before == some '\n'
  | lineEnd, _, after => after.isNone || after == some '\n'
  | anyLineStart, before, after =>
    before.isNone || before == some '\n' || (before == some '\r' && after != some '\n')
  | anyLineEnd, before, after =>
    after.isNone || after == some '\r' || (after == some '\n' && before != some '\r')
  | wordBoundary ascii, before, after => besideWord ascii before != besideWord ascii after
  | notWordBoundary ascii, before, after => besideWord ascii before == besideWord ascii after
  | wordStart ascii, before, after => !besideWord ascii before && besideWord ascii after
  | wordEnd ascii, before, after => besideWord ascii before && !besideWord ascii after
  | wordStartHalf ascii, before, _ => !besideWord ascii before
  | wordEndHalf ascii, _, after => !besideWord ascii after

/-! ## Sets of positions -/

/-- The natural whose bits are the given ones, the lowest first. -/
def bitsOf (bits : List Bool) : Nat := bits.foldr (fun bit n => bit.toNat + 2 * n) 0

/-- The number of bits that are put together at once. -/
def blockLength : Nat := 32

/-- The positions at which a list has a true member. Long lists are taken in blocks. -/
def positionsOf (bits : List Bool) : Nat :=
  if _h : (bits.drop blockLength).isEmpty then bitsOf bits
  else bitsOf (bits.take blockLength) + positionsOf (bits.drop blockLength) <<< blockLength
termination_by bits.length
decreasing_by
  simp only [List.isEmpty_iff, List.drop_eq_nil_iff, blockLength] at _h
  simp only [List.length_drop, blockLength]
  omega

/-- All positions of a text with the characters on both sides. -/
def neighbours (text : List Char) : List (Option Char × Option Char) :=
  (none :: text.map some).zip (text.map some ++ [none])

/-- Whether the word stands at each position of a text, the end left out. -/
def occurrences (word : List Char) : List Char → List Bool
  | [] => []
  | c :: cs => word.isPrefixOf (c :: cs) :: occurrences word cs

/-- All positions of a text. -/
def allPositions (text : List Char) : Nat := 1 <<< (text.length + 1) - 1

/-- The positions of the first set that are not in the second. -/
def without (a b : Nat) : Nat := (a ||| b) ^^^ b

/-! ## Routes -/

/-- What a pattern comes to in one text. -/
inductive Route where
  /-- Stays at the positions of a set. -/
  | stay (places : Nat)
  /-- Goes on by a number of characters from the positions of a set. -/
  | step (places length : Nat)
  | andThen (first rest : Route)
  | orElse (first rest : Route)
  | repeated (body : Route) (least : Nat) (most : Option Nat)

/-- The route of a pattern through a text. -/
def Node.route (text : List Char) : Node → Route
  | empty => .stay (allPositions text)
  | .text chars => .step (positionsOf (occurrences chars text)) chars.length
  | oneOf set => .step (positionsOf (text.map fun c => set.contains c.toNat)) 1
  | assertion a => .stay (positionsOf ((neighbours text).map fun p => a.holds p.1 p.2))
  | sequence first rest => .andThen (first.route text) (rest.route text)
  | choice first rest => .orElse (first.route text) (rest.route text)
  | repetition body least most _ => .repeated (body.route text) least most
  | group _ body => body.route text

/-- Applies a step a number of times, or until it changes nothing. -/
def iterate (step : Nat → Nat) : Nat → Nat → Nat
  | 0, positions => positions
  | count + 1, positions =>
    let next := step positions
    if next = positions then positions else iterate step count next

/-- The positions reached, and those that a step reaches from the last ones found, a number of times or until there
are no more. -/
def spread (step : Nat → Nat) : Nat → Nat → Nat → Nat
  | 0, reached, _ => reached
  | count + 1, reached, last =>
    let found := without (step last) reached
    if found = 0 then reached else spread step count (reached ||| found) found

namespace Route

/-- All positions that steps by one character from some of the places lead to. Adding the places carries each start to
the end of its run of places. -/
def runThrough (places positions : Nat) : Nat :=
  ((((positions &&& places) + places) ^^^ places) ||| positions)

/-- Where the route may end when it begins at one of the given positions. Routes never lead back, so in a text of so
many characters, more repetitions than `limit` reach nothing else. -/
def reach (limit : Nat) : Route → Nat → Nat
  | stay places, positions => positions &&& places
  | step places length, positions => (positions &&& places) <<< length
  | andThen first rest, positions => rest.reach limit (first.reach limit positions)
  | orElse first rest, positions => first.reach limit positions ||| rest.reach limit positions
  | repeated body least most, positions =>
    let required := iterate (body.reach limit) (min least limit) positions
    match body, most with
    | step places 1, none => runThrough places required
    | _, none => spread (body.reach limit) limit required required
    | _, some most => spread (body.reach limit) (min (most - least) limit) required required

end Route

/-- Whether the pattern matches somewhere in the text. -/
def Node.matchesIn (n : Node) (text : List Char) : Bool :=
  (n.route text).reach (text.length + 2) (allPositions text) != 0

end RecordQuery.Pattern
