import AttributeRelease.Activity
import AttributeRelease.Activity.Gate
import AttributeRelease.Keyed

/-!
Who goes on when. Everything is driven by turns. In a turn only so many steps may be taken; whoever
finds none left is given another turn later, those who were put off last going first. When nobody is to
be given a turn the clock moves on to the next time that somebody waits for. Members of a crowd are
given turns of their own, in the order in which they were woken.
-/

namespace AttributeRelease

/-- Somebody who takes part: the number of a call, and a name within the call. -/
abbrev Party := Nat × String

/-- Somebody who waits for a time. -/
structure Timer where
  due : Nat
  number : Nat
  waker : Waker

/-- A time to wait for, and the number of its timer as soon as there is one. -/
structure Alarm where
  due : Nat
  number : Option Nat := none

/-- A crowd: which members are to be given a turn, and which have not ended. -/
structure Crowd where
  /-- In the order in which they were woken. -/
  ready : List Nat
  /-- In the order of their last turns. -/
  alive : List Nat
  failed : List Nat := []
  /-- Who is to be given a turn when a member is woken. -/
  caller : Option Waker := none

def Scheduler.stepsPerTurn : Nat := 128

/-- The clock, and everybody who waits. -/
structure Scheduler where
  clock : Nat := 0
  /-- How many steps may still be taken in this turn. -/
  steps : Nat := Scheduler.stepsPerTurn
  /-- Whether another turn is due. -/
  woken : Bool := false
  /-- In the order in which they were set. -/
  timers : List Timer := []
  /-- Who was put off, the latest first. -/
  postponed : List Waker := []
  crowds : List (Nat × Crowd) := []
  locks : Keyed (Gate Party) := .empty
  /-- A number that nothing has yet. -/
  unused : Nat := 0

namespace Scheduler

/-- A crowd that is under way. -/
def crowd? (s : Scheduler) (number : Nat) : Option Crowd := s.crowds.lookup number

def alterCrowd (s : Scheduler) (number : Nat) (f : Crowd → Crowd) : Scheduler :=
  { s with crowds := s.crowds.map fun e => if e.1 = number then (e.1, f e.2) else e }

/-- Starts a crowd whose members are all to be given a turn, under the number that was unused. -/
def openCrowd (s : Scheduler) (size : Nat) : Scheduler :=
  { s with
    unused := s.unused + 1
    crowds := (s.unused, { ready := List.range size, alive := List.range size }) :: s.crowds }

def closeCrowd (s : Scheduler) (number : Nat) : Scheduler :=
  { s with crowds := s.crowds.filter (·.1 ≠ number) }

/-- Sees to it that somebody is given a turn, through crowds that are at most `levels` deep. -/
def wakeWithin : (levels : Nat) → Waker → Scheduler → Scheduler
  | _, .driver, s => { s with woken := true }
  | 0, .member .., s => s
  | levels + 1, .member number place, s =>
    match s.crowd? number with
    | none => s
    | some c =>
      if place ∈ c.alive ∧ place ∉ c.ready then
        let s := s.alterCrowd number fun c => { c with ready := c.ready ++ [place], caller := none }
        match c.caller with
        | none => s
        | some w => wakeWithin levels w s
      else s

/-- Sees to it that somebody is given a turn. -/
def wake (s : Scheduler) (w : Waker) : Scheduler := wakeWithin s.crowds.length w s

/-- Sees to it that somebody, if there is anybody, is given a turn. -/
def wakeAny (s : Scheduler) (w : Option Waker) : Scheduler :=
  match w with
  | none => s
  | some w => s.wake w

def postpone (s : Scheduler) (w : Waker) : Scheduler :=
  if s.postponed.head? = some w then s else { s with postponed := w :: s.postponed }

def step (s : Scheduler) : Scheduler := { s with steps := s.steps - 1 }

def wakePostponed (s : Scheduler) : Scheduler := s.postponed.foldl wake { s with postponed := [] }

/-- Moves the clock on to the next time that somebody waits for. -/
def moveOn? (s : Scheduler) : Option Scheduler :=
  (s.timers.map Timer.due).min?.map fun due =>
    let clock := max s.clock due
    let (rung, timers) := s.timers.partition (·.due ≤ clock)
    (rung.map Timer.waker).foldl wake { s with clock, timers }

/-- The next turn, with the clock moved on if need be. -/
def nextTurnWithin : (moves : Nat) → Scheduler → Option Scheduler
  | 0, _ => none
  | moves + 1, s =>
    if s.woken then some { s with woken := false, steps := stepsPerTurn }
    else s.moveOn?.bind (nextTurnWithin moves)

/-- The next turn, unless nobody waits for anything that will come. -/
def nextTurn? (s : Scheduler) : Option Scheduler :=
  let s := s.wakePostponed
  nextTurnWithin (s.timers.length + 1) s

/-- Goes through a gate, or waits before it. -/
def pass {τ : Type} [DecidableEq τ] (s : Scheduler) (g : Gate τ) (t : τ) (w : Waker) :
    Gate.Passage × Gate τ × Scheduler :=
  let hasStep := s.steps != 0
  match g.enter t w hasStep with
  | (.waits, g) => (.waits, g, if hasStep then s else s.postpone w)
  | (passage, g) => (passage, g, s.step)

/-- A lock; nobody has one that was never asked for. -/
def lock (s : Scheduler) (name : String) : Gate Party := (s.locks.get? name).getD { free := 1 }

/-- Takes a lock if it is free. -/
def take (s : Scheduler) (name : String) (who : Party) (w : Waker) : Bool × Scheduler :=
  let (passage, g, s) := s.pass (s.lock name) who w
  (passage = .enters, { s with locks := s.locks.insert name g })

def giveBack (s : Scheduler) (name : String) : Scheduler :=
  let (next, g) := (s.lock name).leave
  { s with locks := s.locks.insert name g }.wakeAny next

def renounce (s : Scheduler) (name : String) (who : Party) : Scheduler :=
  let (next, g) := (s.lock name).withdraw who
  { s with locks := s.locks.insert name g }.wakeAny next

def alarm (s : Scheduler) (ms : Nat) : Alarm := { due := s.clock + Activity.waitOf ms }

/-- Whether it is time. Unless the look is free it takes a step. -/
def rings (s : Scheduler) (a : Alarm) (w : Waker) (isFree : Bool) : Bool × Alarm × Scheduler :=
  if !isFree ∧ s.steps = 0 then (false, a, s.postpone w)
  else if a.due ≤ s.clock then (true, a, if isFree then s else s.step)
  else
    match a.number with
    | some _ => (false, a, s)
    | none => (false, { a with number := some s.unused }, { s with
        unused := s.unused + 1
        timers := s.timers ++ [⟨a.due, s.unused, w⟩] })

/--
Whether the time for something is over, which had this many steps when it was last given a turn. If it
has used them all up the look is free.
-/
def isOver (s : Scheduler) (limit : Alarm) (w : Waker) (stepsBefore : Nat) : Bool × Alarm × Scheduler :=
  s.rings limit w (stepsBefore != 0 && s.steps == 0)

def cancel (s : Scheduler) (a : Alarm) : Scheduler :=
  { s with timers := s.timers.filter fun t => a.number ≠ some t.number }

end Scheduler

/-- States that have a scheduler. -/
class Scheduled (S : Type) where
  scheduler : S → Scheduler
  reschedule : S → (Scheduler → Scheduler) → S

export Scheduled (scheduler reschedule)

/-- Drives a state by turns until a turn says that it has ended, or for as many turns as the fuel allows. -/
def drive {S : Type} [Scheduled S] (turn : S → Bool × S) : (fuel : Nat) → S → S
  | 0, s => s
  | fuel + 1, s =>
    match turn s with
    | (true, s) => s
    | (false, s) =>
      match (scheduler s).nextTurn? with
      | none => s
      | some next => drive turn fuel (reschedule s fun _ => next)

end AttributeRelease
