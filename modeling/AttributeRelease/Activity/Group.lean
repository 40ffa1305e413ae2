import AttributeRelease.Activity.Scheduler

/-!
Groups whose members go on side by side until all have ended, or one has failed. In a small group every
member is given a turn in order, and the first failure ends the group. A larger one is a crowd: only
members that were woken are given a turn, and a failure counts when all members before it have ended.
-/

namespace AttributeRelease

/-- How a member comes out of a turn. -/
inductive Standing where
  | waits
  | ended
  | failed
  deriving DecidableEq, Repr

/-- How a group comes out of a turn. -/
inductive Verdict where
  | waits
  | ended
  | failed (place : Nat)
  deriving DecidableEq, Repr

/-- A group of some size, and the number of its crowd if it is large. -/
structure Group where
  size : Nat
  crowd : Option Nat
  deriving DecidableEq, Repr

namespace Crowd

def verdict (c : Crowd) (size : Nat) : Verdict :=
  match (List.range size).find? fun place => c.alive.contains place || c.failed.contains place with
  | none => .ended
  | some place => if c.alive.contains place then .waits else .failed place

end Crowd

namespace Group

variable {S : Type} [Scheduled S]

/-- The size of the largest group whose members are given turns in order. -/
def maxInOrder : Nat := 30

def start (size : Nat) (s : S) : Group × S :=
  if size ≤ maxInOrder then (⟨size, none⟩, s)
  else (⟨size, some (scheduler s).unused⟩, reschedule s (·.openCrowd size))

/-- Gives members turns in order. One that has ended before ends again and changes nothing. -/
def turnInOrder (turn : Waker → Nat → S → Standing × S) (w : Waker) :
    (places : List Nat) → (allEnded : Bool) → S → Verdict × S
  | [], allEnded, s => (if allEnded then .ended else .waits, s)
  | place :: rest, allEnded, s =>
    match turn w place s with
    | (.waits, s) => turnInOrder turn w rest false s
    | (.ended, s) => turnInOrder turn w rest allEnded s
    | (.failed, s) => (.failed place, s)

/--
Gives members of a crowd turns as long as some are woken. It breaks off and asks for another turn as soon
as two members were woken again during their own turns, or when as many were given one as there were left.
-/
def turnReady (turn : Waker → Nat → S → Standing × S) (w : Waker) (size number : Nat) :
    (fuel left again : Nat) → S → Verdict × S
  | 0, _, _, s => (.waits, s)
  | fuel + 1, left, again, s =>
    match (scheduler s).crowd? number with
    | none => (.waits, s)
    | some c =>
      match c.ready with
      | [] => (c.verdict size, s)
      | place :: ready =>
        let s := reschedule s fun k => k.alterCrowd number fun c => { c with ready }
        if place ∉ c.alive then turnReady turn w size number fuel left again s
        else
          match turn (.member number place) place s with
          | (.waits, s) =>
            let s := reschedule s fun k => k.alterCrowd number fun c =>
              { c with alive := c.alive.erase place ++ [place] }
            let isReady := ((scheduler s).crowd? number).any (·.ready.contains place)
            let again := if isReady then again + 1 else again
            if 2 ≤ again ∨ left ≤ 1 then (.waits, reschedule s (·.wake w))
            else turnReady turn w size number fuel (left - 1) again s
          | (standing, s) =>
            let s := reschedule s fun k => k.alterCrowd number fun c => { c with
              alive := c.alive.erase place
              failed := if standing = .failed then place :: c.failed else c.failed
              caller := some w }
            match (scheduler s).crowd? number with
            | none => (.waits, s)
            | some c =>
              match c.verdict size with
              | .waits => turnReady turn w size number fuel c.alive.length 0 s
              | verdict => (verdict, s)

def turn (g : Group) (turn : Waker → Nat → S → Standing × S) (w : Waker) (s : S) : Verdict × S :=
  match g.crowd with
  | none => turnInOrder turn w (List.range g.size) true s
  | some number =>
    let s := reschedule s fun k => k.alterCrowd number fun c => { c with caller := some w }
    let left := ((scheduler s).crowd? number).elim 0 (·.alive.length)
    turnReady turn w g.size number ((g.size + 1) * (g.size + 1)) left 0 s

def close (g : Group) (s : S) : S :=
  match g.crowd with
  | none => s
  | some number => reschedule s (·.closeCrowd number)

/-- Breaks a group off: every member that has not ended is dismissed, in a crowd the last ones first. -/
def disband (g : Group) (dismiss : Nat → S → S) (s : S) : S :=
  match g.crowd with
  | none => (List.range g.size).foldl (fun s place => dismiss place s) s
  | some number =>
    let alive := ((scheduler s).crowd? number).elim [] Crowd.alive
    g.close <| alive.reverse.foldl (fun s place =>
      dismiss place <| reschedule s fun k => k.alterCrowd number fun c =>
        { c with alive := c.alive.erase place }) s

end Group

end AttributeRelease
