import RecordQuery.Pattern.CharSet
import RecordQuery.Pattern.Matching
import RecordQuery.Pattern.Size
import RecordQuery.Text.Basic
import RecordQuery.Unicode.Letter

/-! The written form of patterns: literals, classes in brackets with set operations, escapes, groups, flags,
repetitions and assertions. Reading gives a pattern or nothing; a text is also refused when it nests too deep, when
it would match bytes that are no text, or when the automata for it would grow beyond a limit. -/
namespace RecordQuery.Pattern
set_option autoImplicit false

open Unicode (Ranges)

/-! ## Flags -/

structure Flags where
  ignoreCase : Bool := false
  multiLine : Bool := false
  dotMatchesLineEnd : Bool := false
  /-- Repetitions take as little as they can, and those marked as such take as much. -/
  swapGreed : Bool := false
  unicode : Bool := true
  anyLineEnd : Bool := false
  /-- Blanks and comments between the parts of a pattern mean nothing. -/
  spaced : Bool := false
deriving Repr

/-- Drops blanks and comments, from inside a comment when `comment` is set. -/
def dropIgnored : Bool → List Char → List Char
  | _, [] => []
  | true, c :: cs => dropIgnored (c ≠ '\n') cs
  | false, c :: cs =>
    if Text.isBlank c then dropIgnored false cs
    else if c = '#' then dropIgnored true cs
    else c :: cs

namespace Flags

def skip (f : Flags) (cs : List Char) : List Char := if f.spaced then dropIgnored false cs else cs

/-- Sets or clears the flag with the given letter. -/
def set? (f : Flags) (letter : Char) (on : Bool) : Option Flags :=
  match letter with
  | 'i' => some { f with ignoreCase := on }
  | 'm' => some { f with multiLine := on }
  | 's' => some { f with dotMatchesLineEnd := on }
  | 'U' => some { f with swapGreed := on }
  | 'u' => some { f with unicode := on }
  | 'R' => some { f with anyLineEnd := on }
  | 'x' => some { f with spaced := on }
  | _ => none

/-- Reads flag letters up to a colon or a closing parenthesis, which is left in place. A letter comes once, a
hyphen once and not last. -/
def read? : List Char → List Char → Bool → Flags → Option (Flags × List Char × List Char)
  | [], _, _, _ => none
  | c :: cs, seen, on, f =>
    if c = ':' ∨ c = ')' then
      if seen.head? = some '-' then none else some (f, seen, c :: cs)
    else if seen.contains c then none
    else if c = '-' then read? cs (c :: seen) false f
    else match f.set? c on with
      | some f => read? cs (c :: seen) on f
      | none => none

def caseRule (f : Flags) : CaseRule := if f.unicode then .unicode else .ascii

/-- The set closed for case, where the flags ask for that. -/
def fold (f : Flags) (set : Ranges) : Ranges := if f.ignoreCase then f.caseRule.close set else set

/-- The set closed for case and then, if wanted, complemented. Outside Unicode a complement would hold bytes that
are no text, so there is none. -/
def foldNegate? (f : Flags) (negated : Bool) (set : Ranges) : Option Ranges :=
  if negated then if f.unicode then some (Ranges.compl (f.fold set)) else none
  else some (f.fold set)

end Flags

/-! ## Escapes -/

/-- What stands for one thing in a pattern or in a class. -/
inductive Primitive where
  /-- A character, which may have been written as two hexadecimal digits. -/
  | literal (c : Char) (byte : Bool)
  | perl (letter : Char) (negated : Bool)
  | property (set : Ranges) (negated : Bool)
  | place (a : Assertion)
deriving Repr

def isMeta (c : Char) : Bool := "\\.+*?()|[]\x7b\x7d^$#&-~".toList.contains c

def hexDigit? (c : Char) : Option Nat :=
  if c.isDigit then some (c.toNat - 48)
  else if 'a' ≤ c ∧ c ≤ 'f' then some (c.toNat - 87)
  else if 'A' ≤ c ∧ c ≤ 'F' then some (c.toNat - 55)
  else none

/-- The character with the given code, if there is one. -/
def charOfCode? (n : Nat) : Option Char := if h : n.isValidChar then some (Char.ofNatAux n h) else none

/-- Reads a fixed number of hexadecimal digits. -/
def readHexDigits (f : Flags) : Nat → Nat → List Char → Option (Nat × List Char)
  | 0, n, cs => some (n, cs)
  | count + 1, n, c :: cs => do readHexDigits f count (16 * n + (← hexDigit? c)) (f.skip cs)
  | _ + 1, _, [] => none

/-- Reads hexadecimal digits up to a closing brace; there is at least one. The fuel is the length of the text. -/
def readHexBrace (f : Flags) : Nat → Option Nat → List Char → Option (Nat × List Char)
  | _, some n, '\x7d' :: cs => some (n, f.skip cs)
  | fuel + 1, n, c :: cs => do readHexBrace f fuel (some (16 * n.getD 0 + (← hexDigit? c))) (f.skip cs)
  | _, _, _ => none

/-- Reads what follows the letter of a hexadecimal escape. -/
def readHex (f : Flags) (letter : Char) (cs : List Char) : Option (Primitive × List Char) := do
  match f.skip cs with
  | '\x7b' :: cs =>
    let (n, rest) ← readHexBrace f cs.length none (f.skip cs)
    some (.literal (← charOfCode? n) false, rest)
  | cs =>
    let (n, rest) ← readHexDigits f (if letter = 'x' then 2 else if letter = 'u' then 4 else 8) 0 cs
    some (.literal (← charOfCode? n) (letter = 'x'), rest)

/-- The text up to a closing brace, blanks left out where they mean nothing. -/
def readBraced (f : Flags) : Nat → List Char → List Char → Option (List Char × List Char)
  | fuel + 1, done, c :: cs =>
    if c = '\x7d' then some (done.reverse, cs) else readBraced f fuel (c :: done) (f.skip cs)
  | _, _, _ => none

/-- The parts of a list around the first occurrence of a sign. -/
def cutAt (sign : List Char) : List Char → Option (List Char × List Char)
  | [] => none
  | c :: cs =>
    if sign.isPrefixOf (c :: cs) then some ([], (c :: cs).drop sign.length)
    else (cutAt sign cs).map fun (before, after) => (c :: before, after)

/-- The class that the text between braces names, and whether its sign says "unlike". -/
def namedClass (text : List Char) : Option (Ranges × Bool) :=
  match cutAt ['!', '='] text with
  | some (name, value) => (propertyValued name value).map (·, true)
  | none => match (cutAt [':'] text).orElse fun _ => cutAt ['='] text with
    | some (name, value) => (propertyValued name value).map (·, false)
    | none => (propertyNamed text).map (·, false)

/-- Reads the name of a property, one letter or a text between braces. -/
def readProperty (f : Flags) (letter : Char) (cs : List Char) : Option (Primitive × List Char) := do
  match f.skip cs with
  | [] => none
  | '\x7b' :: cs =>
    let (text, rest) ← readBraced f (cs.length + 1) [] (f.skip cs)
    let (set, unlike) ← namedClass text
    some (.property set ((letter = 'P') != unlike), rest)
  | c :: cs =>
    if c = '\\' then none
    else some (.property (← propertyNamed [c]) (letter = 'P'), f.skip cs)

/-- The letters and hyphens of the name of a word boundary. -/
def readBoundaryName (f : Flags) : Nat → List Char → List Char → List Char × List Char
  | fuel + 1, done, c :: cs =>
    if c.isAlpha ∨ c = '-' then readBoundaryName f fuel (c :: done) (f.skip cs) else (done.reverse, c :: cs)
  | _, done, cs => (done.reverse, cs)

/-- Reads what follows the letter of a word boundary: its kind between braces, or nothing. -/
def readBoundary (f : Flags) (cs : List Char) : Option (Primitive × List Char) :=
  let plain : Primitive := .place (.wordBoundary (!f.unicode))
  match cs with
  | '\x7b' :: inner =>
    match f.skip inner with
    | [] => none
    | c :: more =>
      if c.isAlpha ∨ c = '-' then
        match readBoundaryName f (more.length + 1) [] (c :: more) with
        | (name, '\x7d' :: rest) =>
          let kind : Option Assertion := match String.ofList name with
            | "start" => some (.wordStart (!f.unicode))
            | "end" => some (.wordEnd (!f.unicode))
            | "start-half" => some (.wordStartHalf (!f.unicode))
            | "end-half" => some (.wordEndHalf (!f.unicode))
            | _ => none
          kind.map fun k => (.place k, rest)
        | _ => none
      else some (plain, cs)
  | _ => some (plain, cs)

/-- Reads what follows a backslash. -/
def readEscape (f : Flags) : List Char → Option (Primitive × List Char)
  | [] => none
  | c :: cs =>
    if c.isDigit then none
    else if c = 'x' ∨ c = 'u' ∨ c = 'U' then readHex f c cs
    else if c = 'p' ∨ c = 'P' then readProperty f c cs
    else if c = 'd' ∨ c = 's' ∨ c = 'w' then some (.perl c false, cs)
    else if c = 'D' ∨ c = 'S' ∨ c = 'W' then some (.perl c.toLower true, cs)
    else if isMeta c then some (.literal c false, cs)
    else match c with
      | 'a' => some (.literal '\x07' false, cs)
      | 'f' => some (.literal '\x0c' false, cs)
      | 't' => some (.literal '\t' false, cs)
      | 'n' => some (.literal '\n' false, cs)
      | 'r' => some (.literal '\r' false, cs)
      | 'v' => some (.literal '\x0b' false, cs)
      | 'A' => some (.place .textStart, cs)
      | 'z' => some (.place .textEnd, cs)
      | 'b' => readBoundary f cs
      | 'B' => some (.place (.notWordBoundary (!f.unicode)), cs)
      | '<' => some (.place (.wordStart (!f.unicode)), cs)
      | '>' => some (.place (.wordEnd (!f.unicode)), cs)
      | _ => if c.toNat < 0x80 ∧ ¬c.isAlphanum then some (.literal c false, cs) else none

/-- The set of a letter class. -/
def perlSet? (f : Flags) (letter : Char) (negated : Bool) : Option Ranges :=
  let set := match letter, f.unicode with
    | 'd', true => digits
    | 'd', false => asciiDigits
    | 's', true => blanks
    | 's', false => asciiBlanks
    | _, true => wordCharacters
    | _, false => asciiWordCharacters
  if negated then if f.unicode then some (Ranges.compl set) else none else some set

/-- The set of a property, which only exists in Unicode. -/
def propertySet? (f : Flags) (set : Ranges) (negated : Bool) : Option Ranges :=
  if f.unicode then f.foldNegate? negated set else none

/-! ## Classes in brackets -/

/-- What a class is combined with. -/
inductive SetOperation where
  | intersection
  | difference
  | symmetricDifference
deriving DecidableEq, Repr

def SetOperation.combine (f : Flags) : SetOperation → Ranges → Ranges → Ranges
  | intersection, a, b => Ranges.inter (f.fold a) (f.fold b)
  | difference, a, b => Ranges.diff (f.fold a) (f.fold b)
  | symmetricDifference, a, b => Ranges.symmDiff (f.fold a) (f.fold b)

/-- A class read so far: the ranges of its items, how many they are, and how deep they nest. -/
structure ClassItems where
  ranges : List (Nat × Nat) := []
  count : Nat := 0
  depth : Nat := 0

def ClassItems.add (items : ClassItems) (set : Ranges) (depth : Nat) : ClassItems :=
  ⟨set ++ items.ranges, items.count + 1, max items.depth depth⟩

def ClassItems.set (items : ClassItems) : Ranges := Ranges.ofList items.ranges

/-- How deep the items nest as one class: a union of several is a level of its own. -/
def ClassItems.level (items : ClassItems) : Nat := items.depth + (if items.count < 2 then 0 else 1)

/-- The items combined with what stands before them, and how deep it nests. -/
def ClassItems.joined (f : Flags) (left : Option (SetOperation × Ranges × Nat)) (items : ClassItems) : Ranges × Nat :=
  match left with
  | none => (items.set, items.level)
  | some (op, set, depth) => (op.combine f set items.set, max depth items.level + 1)

/-- The set of one character. -/
def single (c : Char) : Ranges := [(c.toNat, c.toNat)]

/-- A character that may stand in a class. Outside Unicode only ASCII may. -/
def classChar? (f : Flags) : Primitive → Option Char
  | .literal c _ => if f.unicode || c.toNat < 0x80 then some c else none
  | _ => none

/-- The set that an item of a class stands for. -/
def itemSet? (f : Flags) : Primitive → Option Ranges
  | .perl letter negated => perlSet? f letter negated
  | .property set negated => propertySet? f set negated
  | p => (classChar? f p).map single

/-- Reads one end of a range or a whole item. -/
def readItem (f : Flags) : List Char → Option (Primitive × List Char)
  | [] => none
  | '\\' :: cs => readEscape f cs
  | c :: cs => some (.literal c false, cs)

/-- Reads an item, or a range of characters. A hyphen before a bracket or another hyphen makes no range. -/
def readRange (f : Flags) (cs : List Char) : Option (Ranges × List Char) := do
  let (first, cs) ← readItem f cs
  match f.skip cs with
  | [] => none
  | '-' :: after =>
    match (f.skip after).head? with
    | some ']' => some (← itemSet? f first, '-' :: after)
    | some '-' => some (← itemSet? f first, '-' :: after)
    | none => none
    | some _ =>
      let (last, rest) ← readItem f (f.skip after)
      let low ← classChar? f first
      let high ← classChar? f last
      if low ≤ high then some (Ranges.between low.toNat high.toNat, rest) else none
  | cs => some (← itemSet? f first, cs)

/-- A class named between colons, behind its opening bracket. -/
def readColonClass? (cs : List Char) : Option (Ranges × Bool × List Char) := do
  match cs with
  | ':' :: cs =>
    let (negated, cs) := match cs with
      | '^' :: cs => (true, cs)
      | cs => (false, cs)
    let name := cs.takeWhile (· ≠ ':')
    match cs.drop name.length with
    | ':' :: ']' :: rest => some (← bracketClass? name, negated, rest)
    | _ => none
  | _ => none

/-- Takes hyphens off the front of a class, as items. -/
def leadingHyphens (f : Flags) : Nat → ClassItems → List Char → ClassItems × List Char
  | fuel + 1, items, '-' :: cs => leadingHyphens f fuel (items.add (single '-') 0) (f.skip cs)
  | _, items, cs => (items, cs)

/-- Reads the start of a class behind its bracket: a caret, then hyphens, then a bracket that closes nothing. -/
def readClassStart (f : Flags) (cs : List Char) : Bool × ClassItems × List Char :=
  let cs := f.skip cs
  let (negated, cs) := match cs with
    | '^' :: cs => (true, f.skip cs)
    | cs => (false, cs)
  let (items, cs) := leadingHyphens f cs.length {} cs
  match items.count, cs with
  | 0, ']' :: cs => (negated, items.add (single ']') 0, f.skip cs)
  | _, cs => (negated, items, cs)

mutual

/-- Reads a class behind its opening bracket, and how deep it nests. -/
def readClass (f : Flags) : Nat → List Char → Option (Ranges × Nat × List Char)
  | 0, _ => none
  | fuel + 1, cs => do
    let (negated, items, cs) := readClassStart f cs
    let (set, depth, rest) ← readClassItems f fuel none items cs
    some (← f.foldNegate? negated set, depth + 1, rest)

/-- Reads the items of a class up to its closing bracket. What stands before an operation waits in `left`. -/
def readClassItems (f : Flags) :
    Nat → Option (SetOperation × Ranges × Nat) → ClassItems → List Char → Option (Ranges × Nat × List Char)
  | 0, _, _, _ => none
  | fuel + 1, left, items, cs =>
    match f.skip cs with
    | [] => none
    | ']' :: rest =>
      let (set, depth) := items.joined f left
      some (set, depth, rest)
    | '&' :: '&' :: rest => readClassItems f fuel (some (.intersection, items.joined f left)) {} rest
    | '-' :: '-' :: rest => readClassItems f fuel (some (.difference, items.joined f left)) {} rest
    | '~' :: '~' :: rest => readClassItems f fuel (some (.symmetricDifference, items.joined f left)) {} rest
    | '[' :: rest =>
      match readColonClass? rest with
      | some (ranges, negated, rest) => do
        let set ← f.foldNegate? negated ranges
        readClassItems f fuel left (items.add set 0) rest
      | none => do
        let (set, depth, rest) ← readClass f fuel rest
        readClassItems f fuel left (items.add set depth) rest
    | cs => do
      let (set, rest) ← readRange f cs
      readClassItems f fuel left (items.add set 0) rest

end

/-! ## Repetitions -/

/-- Reads a number with blanks around it, if there is one; it fits 32 bits. -/
def readCount (f : Flags) (cs : List Char) : Option (Option Nat × List Char) :=
  let cs := cs.dropWhile Text.isBlank
  let rec read : Nat → List Char → List Char → List Char × List Char
    | fuel + 1, done, c :: cs => if c.isDigit then read fuel (c :: done) (f.skip cs) else (done.reverse, c :: cs)
    | _, done, cs => (done.reverse, cs)
  let (digits, rest) := read cs.length [] cs
  let rest := rest.dropWhile Text.isBlank
  let rest := if f.spaced then f.skip rest else rest
  if digits.isEmpty then some (none, rest)
  else
    let n := digits.foldl (fun n d => 10 * n + (d.toNat - 48)) 0
    if n < UInt32.size then some (some n, rest) else none

/-- Reads the bounds of a repetition behind its opening brace. -/
def readBounds (f : Flags) (cs : List Char) : Option (Nat × Option Nat × List Char) := do
  let (least, cs) ← readCount f (f.skip cs)
  let (bounds, cs) ← match cs with
    | ',' :: cs => do
      let cs := f.skip cs
      match cs with
      | [] => none
      | '\x7d' :: _ => some ((← least, (none : Option Nat)), cs)
      | _ =>
        let low ← least
        let (most, cs) ← readCount f cs
        let high ← most
        if low ≤ high then some ((low, some high), cs) else none
    | cs => do
      let n ← least
      some ((n, some n), cs)
  match cs with
  | '\x7d' :: cs => some (bounds.1, bounds.2, cs)
  | _ => none

/-- Reads the mark of a repetition that takes as little as it can. -/
def readGreed (f : Flags) : List Char → Bool × List Char
  | '?' :: cs => (f.swapGreed, cs)
  | cs => (!f.swapGreed, cs)

/-! ## Patterns -/

/-- A part of a pattern and how deep it nests. -/
structure Part where
  node : Node
  depth : Nat := 0

/-- The parts of a sequence, last first; a change of flags counts as a part without a pattern. -/
abbrev Parts := List (Option Part)

/-- The sequence of the parts. -/
def joinParts (parts : Parts) : Part :=
  { node := Node.concat (parts.reverse.filterMap fun p => p.map Part.node)
    depth :=
      parts.foldl (fun d p => max d (p.elim 0 Part.depth)) 0 + (if parts.length < 2 then 0 else 1) }

/-- The choice between branches, the last of them given first. -/
def joinBranches (last : Part) (before : List Part) : Part :=
  match before with
  | [] => last
  | _ =>
    { node := Node.alternation ((last :: before).reverse.map Part.node)
      depth := before.foldl (fun d p => max d p.depth) last.depth + 1 }

/-- A character as a pattern. -/
def literalNode? (f : Flags) (c : Char) (byte : Bool) : Option Node :=
  if f.unicode || c.toNat < 0x80 then some (.ofSet (f.fold (single c)))
  else if byte then none
  else some (.text [c])

def primitiveNode? (f : Flags) : Primitive → Option Node
  | .literal c byte => literalNode? f c byte
  | .perl letter negated => (perlSet? f letter negated).map .ofSet
  | .property set negated => (propertySet? f set negated).map .ofSet
  | .place a => some (.assertion a)

/-- Any character, or any that ends no line. -/
def dotNode? (f : Flags) : Option Node :=
  if !f.unicode then none
  else if f.dotMatchesLineEnd then some (.oneOf Ranges.all)
  else if f.anyLineEnd then some (.oneOf (Ranges.compl [(0x0A, 0x0A), (0x0D, 0x0D)]))
  else some (.oneOf (Ranges.compl (single '\n')))

def startAssertion (f : Flags) : Assertion :=
  if f.multiLine then if f.anyLineEnd then .anyLineStart else .lineStart else .textStart

def endAssertion (f : Flags) : Assertion :=
  if f.multiLine then if f.anyLineEnd then .anyLineEnd else .lineEnd else .textEnd

/-- The parts with the last one repeated; there must be one that is no change of flags. -/
def repeatLast? (least : Nat) (most : Option Nat) (greedy : Bool) : Parts → Option Parts
  | some p :: parts =>
    some (some { node := p.node.repeated least most greedy, depth := p.depth + 1 } :: parts)
  | _ => none

/-- Whether a character may stand in the name of a group, as its first or later. -/
def isNameChar (first : Bool) (c : Char) : Bool :=
  let letter := Unicode.alphabetic.contains c.toNat
  if first then c == '_' || letter
  else c == '_' || c == '.' || c == '[' || c == ']' || letter || Unicode.numeric.contains c.toNat

/-- The name of a group up to its closing angle. -/
def readGroupName? (cs : List Char) : Option (List Char × List Char) :=
  let name := cs.takeWhile (· ≠ '>')
  match name, cs.drop name.length with
  | c :: more, '>' :: rest => if isNameChar true c && more.all (isNameChar false) then some (name, rest) else none
  | _, _ => none

/-- What an opening parenthesis begins. -/
inductive Opening where
  /-- Flags for the rest of the group around. -/
  | setFlags (f : Flags)
  /-- A group with flags of its own; it may have a name and may be one that is not remembered. -/
  | group (f : Flags) (name : Option (List Char)) (remembered : Bool)

/-- Reads what follows an opening parenthesis. Looking ahead or behind is not supported. -/
def readOpening (f : Flags) (cs : List Char) : Option (Opening × List Char) := do
  match f.skip cs with
  | '?' :: '=' :: _ => none
  | '?' :: '!' :: _ => none
  | '?' :: '<' :: '=' :: _ => none
  | '?' :: '<' :: '!' :: _ => none
  | '?' :: 'P' :: '<' :: cs =>
    let (name, rest) ← readGroupName? cs
    some (.group f (some name) true, rest)
  | '?' :: '<' :: cs =>
    let (name, rest) ← readGroupName? cs
    some (.group f (some name) true, rest)
  | '?' :: cs =>
    let (inner, seen, rest) ← Flags.read? cs [] true f
    match rest with
    | ')' :: rest => if seen.isEmpty then none else some (.setFlags inner, rest)
    | _ :: rest => some (.group inner none false, rest)
    | [] => none
  | cs => some (.group f none true, cs)

/-- What has been read of a group: its flags, its branches and the parts of the present one, last first. -/
structure Open where
  flags : Flags
  branches : List Part := []
  parts : Parts := []

def Open.add (o : Open) (node : Node) (depth : Nat) : Open :=
  { o with parts := some { node := node, depth := depth } :: o.parts }

def Open.close (o : Open) : Part := joinBranches (joinParts o.parts) o.branches

/-- The groups begun so far that are remembered: how many, and the names of those that have one. -/
structure Groups where
  count : Nat := 0
  names : List (List Char) := []

/-- Adds a group, whose name must be new. -/
def Groups.add? (groups : Groups) (name : Option (List Char)) : Option Groups :=
  if name.any groups.names.contains then none else some ⟨groups.count + 1, name.toList ++ groups.names⟩

/-- Reads a group's inside up to its closing parenthesis or the end of the text, which is left in place. -/
def readGroup : Nat → Open → Groups → List Char → Option (Part × Groups × List Char)
  | 0, _, _, _ => none
  | fuel + 1, o, groups, cs =>
    let f := o.flags
    match f.skip cs with
    | [] => some (o.close, groups, [])
    | ')' :: rest => some (o.close, groups, ')' :: rest)
    | '(' :: rest => do
      match ← readOpening f rest with
      | (.setFlags inner, rest) => readGroup fuel { o with flags := inner, parts := none :: o.parts } groups rest
      | (.group inner name remembered, rest) =>
        let begun ← if remembered then groups.add? name else some groups
        let (part, groups, rest) ← readGroup fuel { flags := inner } begun rest
        match rest with
        | ')' :: rest =>
          let node := if remembered then .group begun.count part.node else part.node
          readGroup fuel (o.add node (part.depth + 1)) groups rest
        | _ => none
    | '|' :: rest => readGroup fuel { o with branches := joinParts o.parts :: o.branches, parts := [] } groups rest
    | '[' :: rest => do
      let (set, depth, rest) ← readClass f (rest.length + 1) rest
      readGroup fuel (o.add (.ofSet set) depth) groups rest
    | '?' :: rest => do
      let (greedy, rest) := readGreed f rest
      readGroup fuel { o with parts := ← repeatLast? 0 (some 1) greedy o.parts } groups rest
    | '*' :: rest => do
      let (greedy, rest) := readGreed f rest
      readGroup fuel { o with parts := ← repeatLast? 0 none greedy o.parts } groups rest
    | '+' :: rest => do
      let (greedy, rest) := readGreed f rest
      readGroup fuel { o with parts := ← repeatLast? 1 none greedy o.parts } groups rest
    | '\x7b' :: rest => do
      let (least, most, rest) ← readBounds f rest
      let (greedy, rest) := readGreed f (f.skip rest)
      readGroup fuel { o with parts := ← repeatLast? least most greedy o.parts } groups rest
    | '\\' :: rest => do
      let (p, rest) ← readEscape f rest
      readGroup fuel (o.add (← primitiveNode? f p) 0) groups rest
    | '.' :: rest => do readGroup fuel (o.add (← dotNode? f) 0) groups rest
    | '^' :: rest => readGroup fuel (o.add (.assertion (startAssertion f)) 0) groups rest
    | '$' :: rest => readGroup fuel (o.add (.assertion (endAssertion f)) 0) groups rest
    | c :: rest => do readGroup fuel (o.add (← literalNode? f c false) 0) groups rest

/-- The levels to which the parts of a pattern may nest. -/
def nestLimit : Nat := 250

/-- The pattern that a text writes. -/
def parseNode? (ignoreCase : Bool) (text : List Char) : Option Node :=
  match readGroup (text.length + 1) { flags := { ignoreCase := ignoreCase } } {} text with
  | some (part, _, []) => if part.depth ≤ nestLimit ∧ part.node.isWithinLimit then some part.node else none
  | _ => none

end RecordQuery.Pattern

namespace RecordQuery
set_option autoImplicit false

/-- A pattern with the text that wrote it. -/
structure TextPattern where
  source : String
  node : Pattern.Node
deriving Repr

namespace TextPattern

/-- The pattern of a text, with or without regard to case. -/
def parse? (ignoreCase : Bool) (source : String) : Option TextPattern :=
  (Pattern.parseNode? ignoreCase source.toList).map (⟨source, ·⟩)

/-- Whether the pattern matches somewhere in a text. -/
def matchesIn (p : TextPattern) (text : String) : Bool := p.node.matchesIn text.toList

end TextPattern

end RecordQuery
