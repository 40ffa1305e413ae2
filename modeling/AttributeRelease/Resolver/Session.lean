import AttributeRelease.Activity.Strand
import AttributeRelease.Graph.Basic
import AttributeRelease.Resolver.Error

/-!
The state of resolutions under way. Every call of a resolver has a cell for each node that was asked for.
Of all who ask for a node the first one through the gate of its cell evaluates it, and the others wait
until it is settled; if that one breaks off before, the next in the line begins anew. All calls share
the clock, the world that connectors change, and a gate that lets in so many fetches at a time.
-/

namespace AttributeRelease

/-- What became of a node. -/
inductive Outcome where
  | resolved (attributes : AttributeMap)
  /-- The node failed, and those that need it go on without it. -/
  | suppressed (e : ResolutionError)
  /-- The node failed, and so does whatever needs it. -/
  | failed (e : ResolutionError)
  deriving DecidableEq

namespace Outcome

/-- The attributes that a node gives to those that need it. -/
def attributes : Outcome → AttributeMap
  | .resolved attributes => attributes
  | .suppressed _ | .failed _ => .empty

def standing : Outcome → Standing
  | .resolved _ | .suppressed _ => .ended
  | .failed _ => .failed

end Outcome

namespace Resolver

/-- How far the evaluation of a node has come. -/
inductive Phase (W : Type) where
  /-- It waits for the dependencies. -/
  | joining (group : Group)
  /-- It waits to be let in for a fetch. -/
  | queued
  /-- It fetches, until the limit at the longest. -/
  | fetching (fetch : Strand W (Except ConnectorError AttributeMap)) (limit : Alarm)
  /-- It failed, and waits for its failover. -/
  | recovering (cause : ResolutionError)

/-- Who asks for a node: a node or the call itself, with the place in the list of what it asks for. -/
structure Asker where
  node : Option String
  place : Nat
  deriving DecidableEq, Repr

/-- How far a node has come. -/
inductive Stage (W : Type) where
  | idle
  /-- It is evaluated for the one who came through the gate. -/
  | evaluated (asker : Asker) (phase : Phase W)
  | settled (o : Outcome)

/-- A node of a call, with a gate that lets in one of those who ask for it. -/
structure Cell (W : Type) where
  gate : Gate Asker := { free := 1 }
  stage : Stage W := .idle

/-- What happened to a node of a call. -/
inductive Event where
  | computed (call : Nat) (node : String)
  | began (call : Nat) (node : String)
  | ended (call : Nat) (node : String)
  /-- The node came to attributes by itself. -/
  | gave (call : Nat) (node : String) (attributes : AttributeMap)
  /-- The node failed by itself. -/
  | erred (call : Nat) (node : String) (e : ResolutionError)
  | settled (call : Nat) (node : String) (o : Outcome)
  deriving DecidableEq

/-- What a node came to by itself. -/
def Event.own (call : Nat) (node : String) : Except ResolutionError AttributeMap → Event
  | .ok attributes => .gave call node attributes
  | .error e => .erred call node e

/-- What a call comes to. -/
structure Resolution where
  attributes : AttributeMap
  /-- The nodes that were needed. -/
  outcomes : List (String × Outcome)

/-- How a call ended. -/
inductive Ending where
  | returned (result : Except ResolutionError Resolution)
  /-- The caller did not wait for it. -/
  | abandoned

/-- A call of a resolver. -/
structure Call (W : Type) where
  /-- Tells the calls that run at a time apart. -/
  number : Nat
  request : Request
  /-- The attributes asked for, all of them if the list is empty. -/
  requested : List String := []
  /-- How long a fetch may take, in milliseconds. -/
  timeout : Nat
  /-- How long the caller waits, in milliseconds. -/
  patience : Option Nat := none
  /-- The nodes that the call starts from, as soon as it has begun, and when the caller stops waiting. -/
  begun : Option (Group × Option Alarm) := none
  cells : Keyed (Cell W) := .empty
  ending : Option Ending := none

/-- What calls share. -/
structure Shared (W : Type) where
  world : W
  scheduler : Scheduler := {}
  /-- Lets in fetches. -/
  permits : Gate Party
  /-- What happened, latest first. -/
  log : List Event := []

/-- A call together with what it shares. -/
structure Session (W : Type) where
  call : Call W
  shared : Shared W

namespace Session

variable {W : Type}

instance : Scheduled (Session W) where
  scheduler s := s.shared.scheduler
  reschedule s f := { s with shared.scheduler := f s.shared.scheduler }

/-- The node of the call as one who waits for fetches and locks. -/
def party (s : Session W) (id : String) : Party := (s.call.number, id)

def record (s : Session W) (e : Event) : Session W := { s with shared.log := e :: s.shared.log }

def cell (s : Session W) (id : String) : Cell W := (s.call.cells.get? id).getD {}

def setCell (s : Session W) (id : String) (c : Cell W) : Session W :=
  { s with call.cells := s.call.cells.insert id c }

/-- Puts down how far the evaluation of a node has come. -/
def setPhase (s : Session W) (id : String) (asker : Asker) (p : Phase W) : Session W :=
  s.setCell id { s.cell id with stage := .evaluated asker p }

/-- What became of a node, if it is settled. -/
def outcome? (s : Session W) (id : String) : Option Outcome :=
  match (s.cell id).stage with
  | .settled o => some o
  | .idle | .evaluated .. => none

/-- What a settled node gives, nothing for any other. -/
def attributesOf (s : Session W) (id : String) : AttributeMap :=
  (s.outcome? id).elim .empty Outcome.attributes

def standing (s : Session W) (id : String) : Standing := (s.outcome? id).elim .waits Outcome.standing

/-- Why a node failed; one that is not there at all is unknown. -/
def failure (s : Session W) (id : String) : ResolutionError :=
  match s.outcome? id with
  | some (.failed e) => e
  | _ => .unknownNode id

/-- Goes through the gate of a cell, or waits before it. -/
def enterCell (s : Session W) (id : String) (asker : Asker) (w : Waker) : Gate.Passage × Session W :=
  let c := s.cell id
  let (passage, gate, scheduler) := s.shared.scheduler.pass c.gate asker w
  (passage, { s.setCell id { c with gate } with shared.scheduler := scheduler })

/-- Gives up on a cell that was not entered. -/
def renounceCell (s : Session W) (id : String) (asker : Asker) : Session W :=
  let c := s.cell id
  let (next, gate) := c.gate.withdraw asker
  reschedule (s.setCell id { c with gate }) (·.wakeAny next)

/-- Leaves a cell to the next one in the line. -/
def leaveCell (s : Session W) (id : String) : Session W :=
  let (next, gate) := (s.cell id).gate.leave
  reschedule (s.setCell id { gate }) (·.wakeAny next)

/-- Puts down what became of a node. Nobody has to wait for it any longer. -/
def settle (s : Session W) (id : String) (o : Outcome) : Session W :=
  let gate := (s.cell id).gate
  let s := s.record (.settled s.call.number id o)
  reschedule (s.setCell id ⟨{ gate with closed := true }, .settled o⟩) fun k =>
    (gate.line.map Prod.snd).foldl Scheduler.wake k

/-! ### Permits for fetches -/

/-- Lets a fetch in, or leaves it waiting; a closed gate turns it away. -/
def takePermit (s : Session W) (id : String) (w : Waker) : Gate.Passage × Session W :=
  let (passage, permits, scheduler) := s.shared.scheduler.pass s.shared.permits (s.party id) w
  (passage, { s with shared.permits := permits, shared.scheduler := scheduler })

def releasePermit (s : Session W) : Session W :=
  let (next, permits) := s.shared.permits.leave
  reschedule { s with shared.permits := permits } (·.wakeAny next)

/-- Ends a fetch that was let in, and makes room for another one. -/
def endFetch (s : Session W) (id : String) (limit : Alarm) : Session W :=
  (reschedule (s.record (.ended s.call.number id)) (·.cancel limit)).releasePermit

def renouncePermit (s : Session W) (id : String) : Session W :=
  let (next, permits) := s.shared.permits.withdraw (s.party id)
  reschedule { s with shared.permits := permits } (·.wakeAny next)

end Session

end Resolver

end AttributeRelease
