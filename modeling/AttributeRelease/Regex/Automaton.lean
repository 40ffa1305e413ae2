import AttributeRelease.Regex.ByteRange
import AttributeRelease.Regex.Pattern
import Std.Data.HashMap

/-!
The size of automata. A pattern is refused if the automata that would look for it take too much room: one
that reads the bytes of a text forward and notes the groups, and one that reads them backward. An automaton
is built state by state. States that read the same bytes and go on in the same way are shared within a class
as far as they are remembered, which is why the states have numbers.
-/

namespace AttributeRelease.Regex

open Unicode (CharSet)

namespace Automaton

/-- What has been built so far. -/
structure Draft where
  states : Nat := 0
  /-- The bytes that states take besides their fixed size. -/
  listed : Nat := 0
  /-- The states of the present class by the slots in which they are remembered. -/
  remembered : Std.HashMap Nat (List Nat × Nat) := {}

/-- A step of building, which fails when there is no more room. -/
abbrev Building := StateT Draft Option

/-- The bytes that a state takes. -/
def stateSize : Nat := 32

def limit : Nat := 0xA00000

/-- Adds a state that lists so many bytes of other things, and gives its number. -/
def addListing (bytes : Nat) : Building Nat := do
  let d ← get
  let states := d.states + 1
  let listed := d.listed + bytes
  if limit < states * stateSize + listed then failure
  set { d with states, listed }
  return d.states

/-- Adds a state that goes on with one byte, at a place, or at once. -/
def addState : Building Nat := addListing 0

/-- Adds a state that goes on by so many ranges of bytes. -/
def addRanges (n : Nat) : Building Nat := addListing (8 * n)

/-- Adds a state that goes on in one of several ways. -/
def addChoice (n : Nat) : Building Nat := addListing (4 * n)

def times (step : Building Unit) : Nat → Building Unit
  | 0 => return
  | n + 1 => do
    step
    times step n

def slot (slots : Nat) (key : List Nat) : Nat :=
  let mixed := key.foldl (fun h n => (h ^^^ n.toUInt64) * 1099511628211) (14695981039346656037 : UInt64)
  mixed.toNat % slots

/-- The state of this key, which is built unless it is the one remembered in its slot. -/
def share (slots : Nat) (key : List Nat) (build : Building Nat) : Building Nat := do
  let place := slot slots key
  match (← get).remembered[place]? with
  | some (other, id) => if other = key then return id
  | none => pure ()
  let id ← build
  modify fun d => { d with remembered := d.remembered.insert place (key, id) }
  return id

/-- A state of which not all ways on are known: those known, last first, and the range of the one that is not. -/
structure OpenState where
  arcs : List (ByteRange × Nat) := []
  last : Option ByteRange := none

/-- The state with its last way on leading to a state. -/
def OpenState.close (s : OpenState) (target : Nat) : OpenState :=
  match s.last with
  | some r => ⟨(r, target) :: s.arcs, none⟩
  | none => s

/-- The number of slots for states that read forward. -/
def forwardSlots : Nat := 10000

/-- Builds a state all of whose ways on are known. -/
def OpenState.build (s : OpenState) : Building Nat :=
  let key := s.arcs.foldl (fun key (r, target) => r.first :: r.last :: target :: key) []
  share forwardSlots key (addRanges s.arcs.length)

/-- Builds the open states, deepest first, until only `keep` of them are left below the top one. -/
def closeTo (keep : Nat) (target : Nat) : List OpenState → Building (List OpenState)
  | [] => return []
  | s :: below =>
    if keep < below.length then do
      let id ← (s.close target).build
      closeTo keep id below
    else return s.close target :: below

/-- Opens a state for each range of a sequence, the first of which goes on from the top one. -/
def openStates (below : List OpenState) : List ByteRange → List OpenState
  | [] => below
  | r :: rest =>
    match below with
    | [] => openStates [⟨[], some r⟩] rest
    | s :: below =>
      if s.last.isNone then openStates (⟨s.arcs, some r⟩ :: below) rest
      else openStates (⟨[], some r⟩ :: s :: below) rest

/-- Adds a sequence. The beginning that it shares with the one before it is not built again. -/
def addSequence (done : Nat) (opened : List OpenState) (ranges : List ByteRange) : Building (List OpenState) := do
  let shared := ((opened.reverse.zip ranges).takeWhile fun (s, r) => s.last = some r).length
  let opened ← closeTo shared done opened
  return openStates opened (ranges.drop shared)

/-- The states that read a character of a class forward. -/
def addForwardClass (chars : CharSet) : Building Unit := do
  let done ← addState
  modify ({ · with remembered := {} })
  let opened ← (chars.ranges.flatMap ByteRange.sequences).foldlM (addSequence done) [{}]
  for s in ← closeTo 0 done opened do
    let _ ← s.build

/-- The number of slots for states that read backward. -/
def backwardSlots : Nat := 1000

/-- The states that read a sequence backward, from its first range to its last. -/
def addBackward (target : Nat) : List ByteRange → Building Unit
  | [] => return
  | r :: rest => do
    let id ← share backwardSlots [target, r.first, r.last] addState
    addBackward id rest

/-- The states that read a character of a class backward. -/
def addBackwardClass (chars : CharSet) : Building Unit := do
  let sequences := chars.ranges.flatMap ByteRange.sequences
  let _ ← addChoice sequences.length
  let done ← addState
  modify ({ · with remembered := {} })
  for s in sequences do
    addBackward done s

/-- Which way an automaton reads. -/
inductive Direction where
  | forward
  | backward
  deriving DecidableEq, Repr

def addClass (d : Direction) (chars : CharSet) : Building Unit := do
  if chars.ranges.all (·.last < 0x80) then
    let _ ← addState
    let _ ← addRanges chars.ranges.length
  else
    match d with
    | .forward => addForwardClass chars
    | .backward => addBackwardClass chars

/-- The texts up to the next one that is empty, and those after it. -/
def splitAtEmpty (texts : List (List Nat)) : List (List Nat) × List (List Nat) :=
  (texts.takeWhile (!·.isEmpty), (texts.dropWhile (!·.isEmpty)).drop 1)

def betweenEmpty : (fuel : Nat) → List (List Nat) → List (List (List Nat))
  | 0, texts => [texts]
  | fuel + 1, texts =>
    if texts.any (·.isEmpty) then
      let (before, after) := splitAtEmpty texts
      before :: betweenEmpty fuel after
    else [texts]

/--
The states of a tree of texts: one for the bytes that come next among the texts between two that end here, and one
to choose between these and the ends. Texts that end at the root before any that goes on count once.
-/
def addTree : (fuel : Nat) → List (List Nat) → Building Unit
  | 0, _ => return
  | fuel + 1, texts => do
    let leading := texts.takeWhile (·.isEmpty)
    let parts := betweenEmpty texts.length (leading.take 1 ++ texts.drop leading.length)
    for part in parts do
      let heads := (part.filterMap (·.head?)).eraseDups
      for head in heads do
        let tails := part.filterMap fun text => if text.head? = some head then text.tail? else none
        if tails.any (!·.isEmpty) then addTree fuel tails
      if heads.length = 1 then
        let _ ← addState
      else if 1 < heads.length then
        let _ ← addRanges heads.length
    let _ ← addChoice ((parts.filter (!·.isEmpty)).length + (parts.length - 1))

def texts? (p : Pattern) : Option (List (List Char)) :=
  p.branches.mapM fun
    | .literal text => some text
    | _ => none

def bytes (text : List Char) : List Nat := text.flatMap fun c => ByteRange.encode c.toNat

def addTexts (d : Direction) (texts : List (List Char)) : Building Unit := do
  let _ ← addState
  let texts := texts.map fun text => if d = .forward then bytes text else (bytes text).reverse
  addTree (1 + texts.foldl (fun n t => max n t.length) 0) texts

/-! ### Patterns -/

def addJoin (branches : Nat) : Building Unit := do
  let _ ← addChoice branches
  let _ ← addState

/-- The states of a repetition, given how to build its body. -/
def addRepetition (least : Nat) (most : Option Nat) (moves : Bool) (body : Building Unit) : Building Unit := do
  match least, most with
  | 0, some 1 => do
    let _ ← addChoice 2
    body
    let _ ← addState
  | 0, none =>
    if moves then
      let _ ← addChoice 2
      body
    else
      body
      let _ ← addChoice 2
      let _ ← addChoice 2
      let _ ← addState
  | n, none =>
    times body n
    let _ ← addChoice 2
  | n, some most =>
    if n = 0 then
      let _ ← addState
    else times body n
    if n < most then
      let _ ← addState
      times (do let _ ← addChoice 2; body) (most - n)

mutual

def add (d : Direction) : Pattern → Building Unit
  | .empty | .anchor _ => do let _ ← addState
  | .literal text => times (do let _ ← addState) (bytes text).length
  | .one chars => addClass d chars
  | .seq a b => do
    match d with
    | .forward => add d a; add d b
    | .backward => add d b; add d a
  | .alt a b => do
    match texts? (.alt a b) with
    | some texts => addTexts d texts
    | none =>
      add d a
      addFurther d (some (1 + b.branches.length)) b
  | .repeated _ least most p => addRepetition least most p.moves (add d p)
  | .group _ p => do
    match d with
    | .forward =>
      let _ ← addState
      add d p
      let _ ← addState
    | .backward => add d p

/-- The states of the further branches of a choice; those that join all of them follow the second one. -/
def addFurther (d : Direction) (joined : Option Nat) : Pattern → Building Unit
  | .alt a b => do
    add d a
    joined.forM addJoin
    addFurther d none b
  | p => do
    add d p
    joined.forM addJoin

end

end Automaton

namespace Pattern

/-- Whether every match begins at a place with this condition. -/
def beginsAt (a : Anchor) : Pattern → Bool
  | .empty | .literal _ | .one _ => false
  | .anchor b => a = b
  | .seq p q => p.beginsAt a || (p.staysInPlace && q.beginsAt a)
  | .alt p q => p.beginsAt a && q.beginsAt a
  | .repeated _ least _ p => least ≠ 0 && p.beginsAt a
  | .group _ p => p.beginsAt a

/-- Whether every match ends at a place with this condition. -/
def endsAt (a : Anchor) : Pattern → Bool
  | .empty | .literal _ | .one _ => false
  | .anchor b => a = b
  | .seq p q => q.endsAt a || (q.staysInPlace && p.endsAt a)
  | .alt p q => p.endsAt a && q.endsAt a
  | .repeated _ least _ p => least ≠ 0 && p.endsAt a
  | .group _ p => p.endsAt a

end Pattern

namespace Automaton

/-- The states before a pattern: unless it is tied to an end of the text, it is looked for at every place. -/
def addStart (tied : Bool) : Building Unit := do
  if tied then
    let _ ← addState
  else
    let _ ← addChoice 2
    let _ ← addState
    let _ ← addRanges 1

/-- The whole automaton of a pattern, in which the match counts as a group. -/
def addWhole (d : Direction) (p : Pattern) : Building Unit := do
  match d with
  | .forward => addStart (p.beginsAt .textStart)
  | .backward => addStart (p.endsAt .textEnd)
  add d (.group 0 p)
  let _ ← addState

def fits (d : Direction) (p : Pattern) : Bool := ((addWhole d p).run {}).isSome

end Automaton

def Pattern.fits (p : Pattern) : Bool := Automaton.fits .forward p && Automaton.fits .backward p

end AttributeRelease.Regex
