import RecordQuery.Pattern.Prefixes
import RecordQuery.Pattern.Utf8

/-! The memory of the two automata for a pattern, one that reads forward and one that reads backward. A state takes a
fixed number of bytes and some more for each of its ways on. Nothing is built: only states and bytes are counted, up
to a limit. -/
namespace RecordQuery.Pattern
set_option autoImplicit false

open Unicode (Ranges)

/-- The bytes that an automaton may take. -/
def sizeLimit : Nat := 10485760

/-- The bytes of a state. -/
def stateSize : Nat := 32

/-- The bytes of a way on that a byte of a range takes. -/
def transitionSize : Nat := 8

/-- The bytes of a way on that is taken without reading. -/
def alternativeSize : Nat := 4

/-! ## States that are shared -/

/-- What tells a state for a character's bytes: the ranges of bytes it reads and the states that they lead to. -/
abbrev StateKey := List (ByteRange × Nat)

/-- A hash of a list of numbers. -/
def hashOf (numbers : List Nat) : UInt64 :=
  numbers.foldl (fun h n => (h ^^^ n.toUInt64) * 1099511628211) 14695981039346656037

/-- A table of states. A state has one slot, and a newer one with the same slot takes its place. -/
abbrev SlotTable := Array (Nat × StateKey × Nat)

/-- The state with the key, if the slot still holds it and it was put there for the same set. -/
def SlotTable.find? (table : SlotTable) (slot set : Nat) (key : StateKey) : Option Nat :=
  match table[slot]? with
  | some (owner, held, state) => if owner = set ∧ held = key then some state else none
  | none => none

/-- An automaton as far as its memory goes. -/
structure Assembly where
  states : Nat := 0
  bytes : Nat := 0
  /-- The number of sets so far. -/
  sets : Nat := 0
  slots : SlotTable

namespace Assembly

/-- Takes more bytes, if there are as many left. -/
def spend (count : Nat) : Assembly → Option Assembly
  | ⟨states, bytes, sets, slots⟩ =>
    if bytes + count ≤ sizeLimit then some ⟨states, bytes + count, sets, slots⟩ else none

/-- Adds a state with ways on that take so many bytes. -/
def addState (extra : Nat) : Assembly → Option Assembly
  | ⟨states, bytes, sets, slots⟩ =>
    if bytes + (stateSize + extra) ≤ sizeLimit then some ⟨states + 1, bytes + (stateSize + extra), sets, slots⟩
    else none

/-- Adds the same state a number of times. -/
def addStates (count : Nat) : Assembly → Option Assembly
  | ⟨states, bytes, sets, slots⟩ =>
    if bytes + count * stateSize ≤ sizeLimit then some ⟨states + count, bytes + count * stateSize, sets, slots⟩
    else none

/-- Begins another set: states of the ones before are not shared with it. -/
def nextSet : Assembly → Assembly
  | ⟨states, bytes, sets, slots⟩ => ⟨states, bytes, sets + 1, slots⟩

/-- Puts a state into its slot. -/
def keep (slot : Nat) (key : StateKey) (state : Nat) : Assembly → Assembly
  | ⟨states, bytes, sets, slots⟩ => ⟨states, bytes, sets, slots.setIfInBounds slot (sets, key, state)⟩

/-- The state with the key: a shared one, or a new one with so many bytes for its ways on. -/
def share (slot : Nat) (key : StateKey) (extra : Nat) (a : Assembly) : Option (Nat × Assembly) :=
  match a.slots.find? slot a.sets key with
  | some state => some (state, a)
  | none => do
    let state := a.states
    let a ← a.addState extra
    some (state, a.keep slot key state)

end Assembly

/-! ## Sets -/

/-- The number of slots of a table that reads forward, and of one that reads backward. -/
def forwardSlots : Nat := 10000
def backwardSlots : Nat := 1000

/-- Sequences with the same first range, together; the sequences are in order. -/
def headGroups : List (List ByteRange) → List (ByteRange × List (List ByteRange))
  | [] => []
  | [] :: rest => headGroups rest
  | (r :: tail) :: rest =>
    match headGroups rest with
    | (s, tails) :: more => if r = s then (s, (tail :: tails)) :: more else (r, [tail]) :: (s, tails) :: more
    | [] => [(r, [tail])]

/-- The state from which the sequences lead to `target`, and the automaton with it. They are as long as `depth` at
most. -/
def forwardState (target : Nat) : Nat → List (List ByteRange) → Assembly → Option (Nat × Assembly)
  | 0, _, a => some (target, a)
  | depth + 1, sequences, a => do
    let (ways, a) ← (headGroups sequences).foldlM
      (fun (ways, a) (range, tails) =>
        if tails.all (·.isEmpty) then some ((range, target) :: ways, a)
        else do
          let (state, a) ← forwardState target depth tails a
          some ((range, state) :: ways, a))
      (([] : StateKey), a)
    let key := ways.reverse
    let hash := hashOf (key.flatMap fun way => [way.1.1.toNat, way.1.2.toNat, way.2])
    a.share (hash.toNat % forwardSlots) key (transitionSize * key.length)

/-- Adds the states that read a sequence from its end, its first byte nearest to `target`. -/
def backwardState : Nat → List ByteRange → Assembly → Option Assembly
  | _, [], a => a.spend alternativeSize
  | target, range :: rest, a => do
    let hash := hashOf [target, range.1.toNat, range.2.toNat]
    let (state, a) ← a.share (hash.toNat % backwardSlots) [(range, target)] 0
    backwardState state rest a

/-- Adds what reads a character of the set. -/
def addSet (backward : Bool) (set : Ranges) (sequences : List (List ByteRange)) (a : Assembly) : Option Assembly := do
  if List.all set fun r => r.2 < 0x80 then (← a.addState 0).addState (transitionSize * set.length)
  else if backward then
    let target := a.states + 1
    let a ← a.addStates 2
    sequences.foldlM (fun a sequence => backwardState target sequence a) a.nextSet
  else
    let target := a.states
    let a ← a.addState 0
    let (_, a) ← forwardState target 4 sequences a.nextSet
    some a

/-! ## Choices between texts -/

/-- Cuts a list of texts at the empty ones. -/
def cutAtEmpty : List (List UInt8) → List (List (List UInt8))
  | [] => [[]]
  | [] :: rest => [] :: cutAtEmpty rest
  | text :: rest =>
    match cutAtEmpty rest with
    | cut :: more => (text :: cut) :: more
    | [] => [[text]]

/-- The tails of the texts, together for each first byte. -/
def tailsByFirst (texts : List (List UInt8)) : List (List (List UInt8)) :=
  (texts.filterMap List.head?).eraseDups.map fun first =>
    texts.filterMap fun text => if text.head? = some first then some text.tail else none

/-- The sum of numbers. -/
def total (numbers : List Nat) : Nat := numbers.foldl (· + ·) 0

/-- The number of states and of bytes for their ways on in a tree of texts, which are tried in order. The fuel is
longer than the texts. -/
def treeSize : Nat → List (List UInt8) → Nat × Nat
  | 0, _ => (0, 0)
  | fuel + 1, texts =>
    if texts.all (·.isEmpty) then (0, 0)
    else
      let texts := match texts.span (·.isEmpty) with
        | ([], texts) => texts
        | (_, texts) => [] :: texts
      let cuts := cutAtEmpty texts
      let groups := cuts.map tailsByFirst
      let branches := (groups.filter (!·.isEmpty)).map (·.length)
      let ways := total (branches.map fun n => if n = 1 then 0 else transitionSize * n)
      let below := groups.flatten.map (treeSize fuel)
      (1 + branches.length + total (below.map (·.1)),
        alternativeSize * (branches.length + cuts.length - 1) + ways + total (below.map (·.2)))

/-- The texts of a choice between texts alone. -/
def textBranches? (n : Node) : Option (List (List UInt8)) :=
  n.branches.mapM fun b => match b with
    | .text chars => some (textBytes chars)
    | _ => none

/-- Adds what reads one of several texts. -/
def addTree (backward : Bool) (texts : List (List UInt8)) (a : Assembly) : Option Assembly := do
  let texts := if backward then texts.map List.reverse else texts
  let (states, extra) := treeSize ((texts.map List.length).foldl max 0 + 1) texts
  (← a.addStates (states + 1)).spend extra

/-! ## Patterns -/

/-- Adds what reads something. The answer also says whether it ends in a state with ways on that are taken without
reading; such a state takes more bytes for what comes after it. -/
abbrev Adding := Assembly → Option (Bool × Assembly)

namespace Assembly

/-- Leads from an end to what comes after it. -/
def follow (isBranching : Bool) (a : Assembly) : Option Assembly :=
  if isBranching then a.spend alternativeSize else some a

/-- More of the same, each after the one before. -/
def addMore (part : Adding) : Nat → Bool → Adding
  | 0, ending, a => some (ending, a)
  | count + 1, ending, a => do
    let (next, a) ← part a
    addMore part count next (← a.follow ending)

/-- The same a number of times. -/
def addTimes (part : Adding) : Nat → Adding
  | 0, a => do some (false, ← a.addState 0)
  | count + 1, a => do
    let (ending, a) ← part a
    addMore part count ending a

/-- More of the same, each of which may be left out with all that follow. -/
def addOptional (part : Adding) : Nat → Bool → Adding
  | 0, ending, a => do some (false, ← a.follow ending)
  | count + 1, ending, a => do
    let (next, a) ← part (← a.addState (2 * alternativeSize))
    addOptional part count next (← a.follow ending)

/-- A repetition of a part. What can match nothing takes more when it may be left out. -/
def addRepetition (part : Adding) (takesText : Bool) (least : Nat) : Option Nat → Adding
  | some 1, a =>
    if least = 0 then do
      let (ending, a) ← part (← a.addState (2 * alternativeSize))
      some (false, ← (← a.addState 0).follow ending)
    else addTimes part least a
  | some most, a => do
    let (ending, a) ← addTimes part least a
    if least = most then some (ending, a) else addOptional part (most - least) ending (← a.addState 0)
  | none, a =>
    match least with
    | 0 => do
      if takesText then
        let (ending, a) ← part (← a.addState alternativeSize)
        some (true, ← a.follow ending)
      else
        let (ending, a) ← part a
        let a ← (← a.addState (2 * alternativeSize)).addState (2 * alternativeSize)
        some (false, ← (← a.addState 0).follow ending)
    | 1 => do
      let (ending, a) ← part a
      some (true, ← (← a.addState alternativeSize).follow ending)
    | least + 2 => do
      let (before, a) ← addTimes part (least + 1) a
      let (ending, a) ← part a
      some (true, ← (← (← a.addState alternativeSize).follow before).follow ending)

/-- Adds one branch of a choice. With the second one come the states where branches part and where they meet. -/
def addBranch (part : Adding) (isSecond : Bool) (a : Assembly) : Option Assembly := do
  let (ending, a) ← part a
  let a ← if isSecond then a.addStates 2 else some a
  (← a.spend alternativeSize).follow ending

end Assembly

/-- What a pattern is added as: by itself, or as a later branch of a choice, perhaps the second. -/
inductive BranchPlace where
  | alone
  | second
  | later

/-- Closes a pattern that is added at a place. -/
def BranchPlace.close (place : BranchPlace) (part : Adding) : Adding :=
  match place with
  | .alone => part
  | .second => fun a => do some (false, ← a.addBranch part true)
  | .later => fun a => do some (false, ← a.addBranch part false)

/-- Adds what reads a pattern. Groups are remembered when reading forward only. -/
def Node.add (backward : Bool) : BranchPlace → Node → Adding
  | place, .empty => place.close fun a => do some (false, ← a.addState 0)
  | place, .text chars => place.close fun a => do some (false, ← a.addStates (textBytes chars).length)
  | place, .oneOf set =>
    let sequences := setSequences set
    place.close fun a => do some (false, ← addSet backward set sequences a)
  | place, .assertion _ => place.close fun a => do some (false, ← a.addState 0)
  | place, .sequence first rest =>
    place.close fun a => do
      if backward then
        let (ending, a) ← rest.add backward .alone a
        let (next, a) ← first.add backward .alone a
        some (next, ← a.follow ending)
      else
        let (ending, a) ← first.add backward .alone a
        let (next, a) ← rest.add backward .alone a
        some (next, ← a.follow ending)
  | .alone, .choice first rest =>
    match textBranches? (.choice first rest) with
    | some texts => fun a => do some (false, ← addTree backward texts a)
    | none => fun a => do rest.add backward .second (← a.addBranch (first.add backward .alone) false)
  | place, .choice first rest => fun a => do
    rest.add backward .later (← a.addBranch (first.add backward .alone) (place matches .second))
  | place, .repetition body least most _ =>
    let takesText := body.leastLength?.any (0 < ·)
    place.close (Assembly.addRepetition (body.add backward .alone) takesText least most)
  | place, .group _ body =>
    if backward then place.close (body.add backward .alone)
    else place.close fun a => do
      let (ending, a) ← body.add backward .alone (← a.addState 0)
      some (false, ← (← a.addState 0).follow ending)

namespace Node

/-- Adds what skips the text before a match, unless there can be none. -/
def addSearch (anchored : Bool) (a : Assembly) : Option Assembly := do
  if anchored then a.addState 0
  else (← (← a.addState (2 * alternativeSize)).addState 0).addState transitionSize

/-- Whether the automaton that reads forward fits the limit. -/
def fitsForward (n : Node) : Bool :=
  let added := do
    let a ← addSearch n.startsText { slots := Array.replicate forwardSlots (0, [], 0) }
    let (ending, a) ← n.add false .alone (← a.addState 0)
    (← (← a.addState 0).follow ending).addState 0
  added.isSome

/-- Whether the automaton that reads backward fits the limit. -/
def fitsBackward (n : Node) : Bool :=
  let added := do
    let a ← addSearch n.endsText { slots := Array.replicate backwardSlots (0, [], 0) }
    let (ending, a) ← n.add true .alone a
    (← a.addState 0).follow ending
  added.isSome

/-- Whether a pattern can be sought: as texts, or by automata that fit the limit. -/
def isWithinLimit (n : Node) : Bool := n.isTexts || n.fitsForward && n.fitsBackward

end Node

end RecordQuery.Pattern
