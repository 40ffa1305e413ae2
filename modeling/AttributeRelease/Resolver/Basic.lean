import AttributeRelease.Resolver.Pursuit
import AttributeRelease.Resolver.Release

/-!
Resolvers. A resolver answers calls on a graph, many at a time; together they run no more fetches than
it lets in. A call asks for the nodes it starts from side by side, and ends as soon as they are all there
or one has failed, or when its caller stops waiting.
-/

namespace AttributeRelease

/-- A graph to resolve attributes on, with limits. -/
structure Resolver (W : Type) where
  graph : Graph W
  /-- How many fetches may run at a time; one may always. -/
  maxFetches : Nat := 16
  /-- How long a fetch may take in milliseconds, unless the call says otherwise. -/
  timeout : Nat := 5000

namespace Resolver

variable {W : Type}

def permits (r : Resolver W) : Nat := max 1 r.maxFetches

/-- What is shared before any call. -/
def shared (r : Resolver W) (world : W) : Shared W := { world, permits := { free := r.permits } }

/-- The result of a call whose roots have all been resolved. -/
def resolution (roots : List (Node W)) (s : Session W) : Resolution :=
  { attributes := released s.call.requested (roots.map fun n => (n, s.attributesOf n.id))
    outcomes := s.call.cells.keys.filterMap fun id => (s.outcome? id).map (id, ·) }

def breakOff (r : Resolver W) (ids : List String) (roots : Group) (s : Session W) : Session W :=
  roots.disband (dismissAt (dismiss r.graph (levels r.graph)) none ids) s

def begin (s : Session W) (size : Nat) : (Group × Option Alarm) × Session W :=
  match s.call.begun with
  | some begun => (begun, s)
  | none =>
    let (roots, s) := Group.start size s
    let limit := s.call.patience.map s.shared.scheduler.alarm
    ((roots, limit), { s with call.begun := some (roots, limit) })

def isOver (roots : Group) (limit : Option Alarm) (w : Waker) (before : Nat) (s : Session W) :
    Bool × Session W :=
  match limit with
  | none => (false, s)
  | some limit =>
    let (isOver, limit, scheduler) := s.shared.scheduler.isOver limit w before
    (isOver, { s with call.begun := some (roots, some limit), shared.scheduler := scheduler })

def finish (ending : Ending) (s : Session W) : Session W :=
  let limit := s.call.begun.bind Prod.snd
  reschedule { s with call.ending := some ending } fun k => limit.elim k k.cancel

/-- Lets a call go on as far as it can. -/
def goOn (r : Resolver W) (w : Waker) (s : Session W) : Session W :=
  let nodes := r.graph.roots s.call.requested
  let ids := nodes.map Node.id
  let before := s.shared.scheduler.steps
  let ((roots, limit), s) := begin s nodes.length
  match roots.turn (askAt (ask r.graph (levels r.graph)) none ids) w s with
  | (.ended, s) => finish (.returned (.ok (resolution nodes s))) (roots.close s)
  | (.failed place, s) =>
    let e := s.failureAt ids place
    finish (.returned (.error e)) (r.breakOff ids roots s)
  | (.waits, s) =>
    match isOver roots limit w before s with
    | (true, s) => finish .abandoned (r.breakOff ids roots s)
    | (false, s) => s

/-- Calls that run side by side. -/
structure Sessions (W : Type) where
  calls : List (Call W)
  shared : Shared W

instance : Scheduled (Sessions W) where
  scheduler s := s.shared.scheduler
  reschedule s f := { s with shared.scheduler := f s.shared.scheduler }

/-- Gives a call a turn; one that has ended stays as it is. -/
def turn (r : Resolver W) (w : Waker) (place : Nat) (s : Sessions W) : Standing × Sessions W :=
  match s.calls[place]? with
  | none => (.ended, s)
  | some call =>
    if call.ending.isSome then (.ended, s)
    else
      let after := r.goOn w ⟨call, s.shared⟩
      (if after.call.ending.isSome then .ended else .waits,
        ⟨s.calls.set place after.call, after.shared⟩)

/-- Runs calls side by side until they have all ended, within as many turns as the fuel allows. -/
def run (r : Resolver W) (fuel : Nat) (calls : List (Call W)) (sh : Shared W) : List (Call W) × Shared W :=
  let (group, s) := Group.start calls.length (⟨calls, sh⟩ : Sessions W)
  let s := group.close (drive (fun s =>
    match group.turn r.turn .driver s with
    | (.waits, s) => (false, s)
    | (_, s) => (true, s)) fuel s)
  (s.calls, s.shared)

end Resolver

end AttributeRelease
