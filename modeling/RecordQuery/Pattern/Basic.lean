import RecordQuery.Unicode.Ranges

/-! Patterns, and the constructors that keep them in a simple form: a sequence or a choice holds no other of its
kind, texts that follow each other are one text, and a choice between characters is one set. -/
namespace RecordQuery.Pattern
set_option autoImplicit false

open Unicode (Ranges)

/-- A condition on the characters around a position. -/
inductive Assertion where
  | textStart
  | textEnd
  | lineStart
  | lineEnd
  /-- The bounds of lines that end with a carriage return, a line feed, or both. -/
  | anyLineStart
  | anyLineEnd
  | wordBoundary (ascii : Bool)
  | notWordBoundary (ascii : Bool)
  | wordStart (ascii : Bool)
  | wordEnd (ascii : Bool)
  | wordStartHalf (ascii : Bool)
  | wordEndHalf (ascii : Bool)
deriving DecidableEq, Repr

/-- A pattern. The second part of a sequence or of a choice may be another one of that kind. -/
inductive Node where
  | empty
  /-- Characters one after the other; there is at least one. -/
  | text (chars : List Char)
  /-- A character of a set; the set has more than one or none. -/
  | oneOf (set : Ranges)
  | assertion (a : Assertion)
  | sequence (first rest : Node)
  | choice (first rest : Node)
  /-- As many as the body can be repeated, or as few. -/
  | repetition (body : Node) (least : Nat) (most : Option Nat) (greedy : Bool)
  /-- A group that is remembered by its number. -/
  | group (index : Nat) (body : Node)
deriving DecidableEq, Repr

namespace Node

/-! ## Lengths -/

/-- Whether the pattern matches places only, no character. -/
def isZeroWidth : Node → Bool
  | empty => true
  | text chars => chars.isEmpty
  | oneOf _ => false
  | assertion _ => true
  | sequence first rest => first.isZeroWidth && rest.isZeroWidth
  | choice first rest => first.isZeroWidth && rest.isZeroWidth
  | repetition body _ most _ => most == some 0 || most.isSome && body.isZeroWidth
  | group _ body => body.isZeroWidth

/-- The least number of characters in a match, unless a part of the pattern can never match. -/
def leastLength? : Node → Option Nat
  | empty => some 0
  | text chars => some chars.length
  | oneOf set => if set.isEmpty then none else some 1
  | assertion _ => some 0
  | sequence first rest => do some ((← first.leastLength?) + (← rest.leastLength?))
  | choice first rest => do some (min (← first.leastLength?) (← rest.leastLength?))
  | repetition body least _ _ => body.leastLength?.map (least * ·)
  | group _ body => body.leastLength?

/-- The number of nodes. -/
def count : Node → Nat
  | sequence first rest => 1 + first.count + rest.count
  | choice first rest => 1 + first.count + rest.count
  | repetition body _ _ _ => 1 + body.count
  | group _ body => 1 + body.count
  | _ => 1

/-! ## Sequences -/

/-- The members of a sequence. Other patterns are sequences of one, and the empty one of none. -/
def parts : Node → List Node
  | empty => []
  | sequence first rest => first :: rest.parts
  | n => [n]

def ofParts : List Node → Node
  | [] => empty
  | [n] => n
  | n :: rest => sequence n (ofParts rest)

/-- Joins texts that stand side by side. -/
def joinTexts : List Node → List Node
  | [] => []
  | text s :: rest =>
    match joinTexts rest with
    | text t :: more => text (s ++ t) :: more
    | more => text s :: more
  | n :: rest => n :: joinTexts rest

/-- The patterns one after the other. -/
def concat (nodes : List Node) : Node := ofParts (joinTexts (nodes.flatMap parts))

/-! ## Choices -/

/-- The branches of a choice. Other patterns are choices of one. -/
def branches : Node → List Node
  | choice first rest => first :: rest.branches
  | n => [n]

def ofBranches : List Node → Node
  | [] => oneOf []
  | [n] => n
  | n :: rest => choice n (ofBranches rest)

/-- A character of the set. -/
def ofSet (set : Ranges) : Node :=
  match set with
  | [(low, high)] => if low = high then text [Char.ofNat low] else oneOf set
  | _ => oneOf set

/-- The code of a pattern for a single character. -/
def singleCode? : Node → Option Nat
  | text [c] => some c.toNat
  | _ => none

def set? : Node → Option Ranges
  | oneOf set => some set
  | _ => none

/-- The members of a pattern that is written as a sequence. -/
def sequenceParts? : Node → Option (List Node)
  | sequence first rest => some (first :: rest.parts)
  | _ => none

/-- What two lists begin with. -/
def commonStart : List Node → List Node → List Node
  | m :: ms, n :: ns => if m = n then m :: commonStart ms ns else []
  | _, _ => []

/-- What sequences have in common at their start, and the rests; there must be something. -/
def splitCommon? (sequences : List (List Node)) : Option (List Node × List (List Node)) :=
  match sequences with
  | [] => none
  | first :: others =>
    let start := others.foldl commonStart first
    if start.isEmpty then none else some (start, sequences.map (·.drop start.length))

/-- A choice between the branches. Characters and sets become one set, and what all sequences begin with is taken
out. The fuel bounds how often something is taken out. -/
def alternate : Nat → List Node → Node
  | fuel, nodes =>
    let nodes := nodes.flatMap branches
    if nodes.length < 2 then ofBranches nodes
    else match nodes.mapM singleCode? with
      | some codes => ofSet (Ranges.ofCodes codes)
      | none => match nodes.mapM set? with
        | some sets => ofSet (Ranges.ofList sets.flatten)
        | none => match fuel, (nodes.mapM sequenceParts?).bind splitCommon? with
          | fuel + 1, some (start, rests) => concat (start ++ [alternate fuel (rests.map concat)])
          | _, _ => ofBranches nodes

/-- A choice between the branches; each thing taken out is a node of theirs. -/
def alternation (nodes : List Node) : Node := alternate (nodes.foldl (fun total n => total + n.count) 0) nodes

/-! ## Repetitions -/

/-- A repetition. What matches places only is not repeated more than once. -/
def repeated (body : Node) (least : Nat) (most : Option Nat) (greedy : Bool) : Node :=
  let (least, most) := if body.isZeroWidth then (min least 1, some (most.elim 1 (min · 1))) else (least, most)
  if most = some 0 then empty
  else if least = 1 ∧ most = some 1 then body
  else repetition body least most greedy

/-! ## What a pattern holds -/

/-- Whether every match begins at the start of the text. -/
def startsText : Node → Bool
  | assertion a => a == .textStart
  | sequence first rest => first.startsText || first.isZeroWidth && rest.startsText
  | choice first rest => first.startsText && rest.startsText
  | repetition body least _ _ => least != 0 && body.startsText
  | group _ body => body.startsText
  | _ => false

/-- Whether every match ends at the end of the text. -/
def endsText : Node → Bool
  | assertion a => a == .textEnd
  | sequence first rest => rest.endsText || rest.isZeroWidth && first.endsText
  | choice first rest => first.endsText && rest.endsText
  | repetition body least _ _ => least != 0 && body.endsText
  | group _ body => body.endsText
  | _ => false

/-- Whether the pattern has no assertion and no group that is remembered. -/
def isPlain : Node → Bool
  | assertion _ => false
  | sequence first rest => first.isPlain && rest.isPlain
  | choice first rest => first.isPlain && rest.isPlain
  | repetition body _ _ _ => body.isPlain
  | group _ _ => false
  | _ => true

end Node

end RecordQuery.Pattern
