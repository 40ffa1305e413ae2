import AttributeRelease.Resolver.Session

/-!
Figures about what happened: how often each connector was asked, and how many fetches were under way at
the same time.
-/

namespace AttributeRelease.Resolver

namespace Event

/-- The connector whose fetch begins. -/
def begun? : Event → Option String
  | .began _ id => some id
  | .computed .. | .ended .. | .gave .. | .erred .. | .settled .. => none

/-- The number of fetches under way after an event, from the number before it. -/
def inFlight (before : Nat) : Event → Nat
  | .computed .. | .gave .. | .erred .. | .settled .. => before
  | .began .. => before + 1
  | .ended .. => before - 1

end Event

def fetchCounts (events : List Event) : Keyed Nat :=
  (events.filterMap Event.begun?).foldl (fun m id => m.alter id fun n => n.getD 0 + 1) .empty

/-- How many fetches were under way at most, when `now` of them were before these events. -/
def mostInFlight (now : Nat) : List Event → Nat
  | [] => now
  | e :: rest => max now (mostInFlight (e.inFlight now) rest)

end AttributeRelease.Resolver
