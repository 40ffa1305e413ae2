/-!
Gates let in so many at a time. Whoever finds no room stands in a line, and room that is made goes to
the first in the line, who need not come back for it at once. A gate that was closed keeps nobody any
longer. Whoever goes in must have a step of its turn left; without one it still takes its room, or its
place in the line, and goes in on its next turn.
-/

namespace AttributeRelease

/-- Who is to be given a turn: whoever drives everything, or a member of a crowd. -/
inductive Waker where
  | driver
  | member (crowd place : Nat)
  deriving DecidableEq, Repr

/-- A gate for those who are told apart by a `τ`. -/
structure Gate (τ : Type) where
  /-- For how many there is room. -/
  free : Nat
  /-- Who waits for room, in order, and who is to be given a turn then. -/
  line : List (τ × Waker) := []
  /-- Those who have been given room and have not gone in yet. -/
  granted : List τ := []
  closed : Bool := false

namespace Gate

/-- What comes of an attempt to go through a gate. -/
inductive Passage where
  | waits
  | enters
  /-- The gate was closed in the meantime. -/
  | excused
  deriving DecidableEq, Repr

variable {τ : Type} [DecidableEq τ]

/-- Whether somebody stands in the line or was given room. -/
def knows (g : Gate τ) (t : τ) : Bool := g.granted.contains t || g.line.any (·.1 = t)

/-- Gives a passage to those who have a step left. -/
def enter (g : Gate τ) (t : τ) (w : Waker) (hasStep : Bool) : Passage × Gate τ :=
  if t ∈ g.granted then
    if hasStep then (.enters, { g with granted := g.granted.erase t }) else (.waits, g)
  else if g.closed then
    if hasStep then (.excused, { g with line := g.line.filter (·.1 ≠ t) }) else (.waits, g)
  else if g.line.any (·.1 = t) then (.waits, g)
  else if g.free = 0 then (.waits, { g with line := g.line ++ [(t, w)] })
  else if hasStep then (.enters, { g with free := g.free - 1 })
  else (.waits, { g with free := g.free - 1, granted := t :: g.granted })

/-- Makes room again. Says who is to be given a turn for it. -/
def leave (g : Gate τ) : Option Waker × Gate τ :=
  match g.line with
  | [] => (none, { g with free := g.free + 1 })
  | (t, w) :: rest => (some w, { g with line := rest, granted := t :: g.granted })

/-- Gives up on a passage, and on the room that was given for it. -/
def withdraw (g : Gate τ) (t : τ) : Option Waker × Gate τ :=
  if t ∈ g.granted then { g with granted := g.granted.erase t }.leave
  else (none, { g with line := g.line.filter (·.1 ≠ t) })

end Gate

end AttributeRelease
