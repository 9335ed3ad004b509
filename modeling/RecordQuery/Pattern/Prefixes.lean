import RecordQuery.Pattern.Basic

/-! The texts with which matches of a pattern can begin, as bytes and as far as they are few and short. Where they
turn out to be all that the pattern matches, it can be sought as plain texts. -/
namespace RecordQuery.Pattern
set_option autoImplicit false

open Unicode (Ranges)

/-- The bytes of a text. -/
def textBytes (chars : List Char) : List UInt8 := chars.flatMap String.utf8EncodeChar

/-- The start of a match. An exact one is the whole match. -/
structure Prefix where
  bytes : List UInt8
  exact : Bool := true
deriving DecidableEq, Repr

namespace Prefix

/-- At most so many bytes of a prefix. -/
def take (count : Nat) (p : Prefix) : Prefix :=
  if p.bytes.length ≤ count then p else ⟨p.bytes.take count, false⟩

def append (p q : Prefix) : Prefix := ⟨p.bytes ++ q.bytes, q.exact⟩

/-- How common each byte below 192 is. -/
def commonness : Array Nat := #[
  55, 52, 51, 50, 49, 48, 47, 46, 45, 103, 242, 66, 67, 229, 44, 43,
  42, 41, 40, 39, 38, 37, 36, 35, 34, 33, 56, 32, 31, 30, 29, 28,
  255, 148, 164, 149, 136, 160, 155, 173, 221, 222, 134, 122, 232, 202, 215, 224,
  208, 220, 204, 187, 183, 179, 177, 168, 178, 200, 226, 195, 154, 184, 174, 126,
  120, 191, 157, 194, 170, 189, 162, 161, 150, 193, 142, 137, 171, 176, 185, 167,
  186, 112, 175, 192, 188, 156, 140, 143, 123, 133, 128, 147, 138, 146, 114, 223,
  151, 249, 216, 238, 236, 253, 227, 218, 230, 247, 135, 180, 241, 233, 246, 244,
  231, 139, 245, 243, 251, 235, 201, 196, 240, 214, 152, 182, 205, 181, 127, 27,
  212, 211, 210, 213, 228, 197, 169, 159, 131, 172, 105, 80, 98, 96, 97, 81,
  207, 145, 116, 115, 144, 130, 153, 121, 107, 132, 109, 110, 124, 111, 82, 108,
  118, 141, 113, 129, 119, 125, 165, 117, 92, 106, 83, 72, 99, 93, 65, 79,
  166, 237, 163, 199, 190, 225, 209, 203, 198, 217, 219, 206, 234, 248, 158, 239]

/-- How common a byte is, from 0 to 255. -/
def rank (b : UInt8) : Nat := commonness.getD b.toNat 255

/-- Whether a prefix is found nearly everywhere. -/
def isPoor (p : Prefix) : Bool :=
  match p.bytes with
  | [] => true
  | [b] => 250 ≤ rank b
  | _ => false

end Prefix

/-- Prefixes in the order of preference. There are none to speak of where too many would have to be listed. -/
abbrev Prefixes := Option (List Prefix)

namespace Prefixes

/-- The bounds on what is listed: the members of a set, the rounds of a repetition, the bytes of a prefix, and the
prefixes in all. -/
def setLimit : Nat := 10
def roundLimit : Nat := 10
def byteLimit : Nat := 100
def totalLimit : Nat := 250

/-- The prefix of what matches no character. -/
def start : Prefixes := some [{ bytes := [] }]

/-- Whether nothing can be added to any prefix. -/
def isInexact (ps : Prefixes) : Bool := ps.all fun l => l.all (!·.exact)

def hasEmpty (ps : List Prefix) : Bool := ps.any (·.bytes.isEmpty)

def loosen (ps : List Prefix) : List Prefix := ps.map fun p => { p with exact := false }

/-- Drops prefixes equal to the one before. If one of them is inexact, so is the one that stays. -/
def dropRepeatsFrom (kept : Prefix) : List Prefix → List Prefix
  | [] => [kept]
  | p :: ps =>
    if p.bytes = kept.bytes then dropRepeatsFrom ⟨kept.bytes, kept.exact && p.exact⟩ ps
    else kept :: dropRepeatsFrom p ps

def dropRepeats : List Prefix → List Prefix
  | [] => []
  | p :: ps => dropRepeatsFrom p ps

/-- The prefixes of one pattern followed by another. -/
def cross (ps qs : Prefixes) : Prefixes :=
  match ps with
  | none => none
  | some ps =>
    match qs.filter fun qs => ps.length * qs.length ≤ totalLimit with
    | none => if hasEmpty ps then none else some ((loosen ps).map (·.take byteLimit))
    | some qs =>
      let crossed := ps.flatMap fun p => if p.exact then qs.map p.append else [p]
      some ((dropRepeats crossed).map (·.take byteLimit))

/-- The prefixes of one pattern or another. Where there are too many, they are cut short. -/
def union (ps qs : Prefixes) : Prefixes := do
  let ps ← ps
  let qs ← qs
  if ps.length + qs.length ≤ totalLimit then some (dropRepeats (ps ++ qs))
  else
    let ps := dropRepeats (ps.map (·.take 4))
    let qs := dropRepeats (qs.map (·.take 4))
    if ps.length + qs.length ≤ totalLimit then some (dropRepeats (ps ++ qs)) else none

/-! ## The prefixes of a pattern -/

def ofText (chars : List Char) : Prefixes := some [Prefix.take byteLimit { bytes := textBytes chars }]

def ofSet (set : Ranges) : Prefixes :=
  if setLimit < set.count then none
  else some (set.flatMap fun r =>
    (List.range (r.2 + 1 - r.1)).map fun i => { bytes := textBytes [Char.ofNat (r.1 + i)] })

/-- The body a number of times, as far as something can be added. -/
def rounds (body : Prefixes) : Nat → Prefixes → Prefixes
  | 0, done => done
  | count + 1, done => if isInexact done then done else rounds body count (cross done body)

def ofRepetition (body : Prefixes) (least : Nat) (most : Option Nat) (greedy : Bool) : Prefixes :=
  if least = 0 then
    let body := if most = some 1 then body else body.map loosen
    if greedy then union body start else union start body
  else match most with
    | none => body.map loosen
    | some most =>
      let done := rounds body (min least roundLimit) start
      if least < most ∨ roundLimit < least then done.map loosen else done

/-- How the prefixes of a pattern join those found before it. -/
inductive Joining where
  | after
  | besides
deriving DecidableEq, Repr

def join (how : Joining) (before found : Prefixes) : Prefixes :=
  match how with
  | .after => if isInexact before then before else cross before found
  | .besides => union before found

/-- The prefixes of a pattern joined to those before it. -/
def extend (how : Joining) : Node → Prefixes → Prefixes
  | .empty, before => join how before start
  | .text chars, before => join how before (ofText chars)
  | .oneOf set, before => join how before (ofSet set)
  | .assertion _, before => join how before start
  | .sequence first rest, before =>
    match how with
    | .after => extend .after rest (extend .after first before)
    | .besides => union before (extend .after rest (extend .after first start))
  | .choice first rest, before =>
    match how with
    | .besides => extend .besides rest (extend .besides first before)
    | .after => join .after before (extend .besides rest (extend .besides first (some [])))
  | .repetition body least most greedy, before =>
    join how before (ofRepetition (extend .after body start) least most greedy)
  | .group _ body, before => join how before (extend .after body start)

def ofNode (n : Node) : Prefixes := extend .after n start

/-! ## The choice of what to seek -/

/-- Drops prefixes that begin with an earlier one; they are never preferred. -/
def dropCovered : List Prefix → List Prefix → List Prefix
  | kept, [] => kept.reverse
  | kept, p :: ps =>
    if kept.any fun k => k.bytes.isPrefixOf p.bytes then dropCovered kept ps else dropCovered (p :: kept) ps

/-- What two lists of bytes begin with. -/
def commonStart : List UInt8 → List UInt8 → List UInt8
  | b :: bs, c :: cs => if b = c then b :: commonStart bs cs else []
  | _, _ => []

/-- What all prefixes begin with. -/
def commonBytes : List Prefix → List UInt8
  | [] => []
  | p :: ps => ps.foldl (fun common q => commonStart common q.bytes) p.bytes

/-- Shortens the prefixes, in rounds, while they are too many for their length. -/
def shorten (ps : List Prefix) : List Prefix :=
  [(5, 10), (4, 10), (3, 64), (2, 64), (1, 10)].foldl
    (fun ps (length, limit) => if ps.length ≤ limit then ps else dropCovered [] (ps.map (·.take length))) ps

/-- Whether the shorter prefixes are better to seek than the whole texts. -/
def isWorthwhile (ps : List Prefix) : Bool :=
  !ps.any (·.isPoor) && ps.all (2 < ·.bytes.length) && !ps.isEmpty && ps.length ≤ 64

/-- The prefixes that are sought. Where they all begin with the same rare byte, it is enough; where they have more in
common, that is. -/
def sought (ps : Prefixes) : Prefixes := do
  let all ← ps
  if hasEmpty all then none
  else
    let kept := dropCovered [] all
    let common := commonBytes kept
    let isRare := common.head?.any fun b => Prefix.rank b < 200
    if 1 < all.length ∧ common.length ≤ 3 ∧ isRare then some (dropRepeats (kept.map (·.take 1)))
    else
      let isFast := kept.all (·.exact) && kept.length ≤ 16
      let kept :=
        if 4 < common.length ∨ (1 < common.length ∧ ¬isFast) then dropRepeats (kept.map (·.take common.length))
        else kept
      let short := shorten kept
      if kept.all (·.exact) then some (if isWorthwhile short then short else kept)
      else if short.any (·.isPoor) then none
      else some short

end Prefixes

namespace Node

/-- Whether what the pattern matches is a few texts that can be sought one by one. -/
def isFewTexts (n : Node) : Bool :=
  n.isPlain && match Prefixes.sought (Prefixes.ofNode n) with
    | some ps => !ps.isEmpty && ps.all (·.exact)
    | none => false

/-- From how many branches on a choice between texts is sought as such. -/
def manyTexts : Nat := 3000

/-- Whether the pattern is a choice between very many texts. -/
def isManyTexts (n : Node) : Bool :=
  manyTexts ≤ n.branches.length && n.branches.all fun b => match b with
    | text _ => true
    | _ => false

/-- Whether the pattern can be sought as plain texts. -/
def isTexts (n : Node) : Bool := n.isFewTexts || n.isManyTexts

end Node

end RecordQuery.Pattern
