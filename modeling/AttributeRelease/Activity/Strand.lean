import AttributeRelease.Activity.Group

/-!
Strands: activities under way among others. A strand goes on in its turn as far as it can and then
remembers what it waits for.
-/

namespace AttributeRelease

/-- An activity that is under way. -/
inductive Strand (W α : Type) where
  /-- Goes on in its next turn; that may be an attempt to take a lock. -/
  | poised (a : Activity W α)
  | asleep (alarm : Alarm) (next : Activity W α)

namespace Strand

variable {W α : Type}

/-- How a strand comes out of a turn. -/
inductive Progress (W α : Type) where
  | ended (a : α)
  | waits (s : Strand W α)

/-- Goes on with an activity as far as it can. -/
def advance (who : Party) (w : Waker) : Activity W α → W → Scheduler → Progress W α × W × Scheduler
  | .done a, world, k => (.ended a, world, k)
  | .act change next, world, k => advance who w (next world) (change world) k
  | .guarded lock change next, world, k =>
    match k.take lock who w with
    | (true, k) => advance who w (next world) (change world) (k.giveBack lock)
    | (false, k) => (.waits (.poised (.guarded lock change next)), world, k)
  | .sleep ms next, world, k =>
    match k.rings (k.alarm ms) w false with
    | (true, _, k) => advance who w next world k
    | (false, alarm, k) => (.waits (.asleep alarm next), world, k)
  | .pause next, world, k => (.waits (.poised next), world, k.postpone w)

/-- Goes on with a strand as far as it can. -/
def goOn (who : Party) (w : Waker) (s : Strand W α) (world : W) (k : Scheduler) :
    Progress W α × W × Scheduler :=
  match s with
  | .poised a => advance who w a world k
  | .asleep alarm next =>
    match k.rings alarm w false with
    | (true, _, k) => advance who w next world k
    | (false, alarm, k) => (.waits (.asleep alarm next), world, k)

def drop (who : Party) (s : Strand W α) (k : Scheduler) : Scheduler :=
  match s with
  | .poised (.guarded lock ..) => k.renounce lock who
  | .poised _ => k
  | .asleep alarm _ => k.cancel alarm

end Strand

/-- Strands that run side by side in one world, each under way or ended. -/
structure Company (W α : Type) where
  strands : List (Strand W α ⊕ α)
  world : W
  scheduler : Scheduler

namespace Company

variable {W α : Type}

instance : Scheduled (Company W α) where
  scheduler := Company.scheduler
  reschedule c f := { c with scheduler := f c.scheduler }

def turn (w : Waker) (place : Nat) (c : Company W α) : Standing × Company W α :=
  match c.strands[place]? with
  | some (.inl s) =>
    match s.goOn (place, "") w c.world c.scheduler with
    | (.ended a, world, k) => (.ended, ⟨c.strands.set place (.inr a), world, k⟩)
    | (.waits s, world, k) => (.waits, ⟨c.strands.set place (.inl s), world, k⟩)
  | some (.inr _) | none => (.ended, c)

def values (c : Company W α) : List (Option α) := c.strands.map Sum.getRight?

end Company

/-- Runs activities side by side until all have ended, for as many turns as the fuel allows. -/
def Activity.runTogether {W α : Type} (fuel : Nat) (as : List (Activity W α)) (world : W) (k : Scheduler) :
    List (Option α) × W × Scheduler :=
  let (group, c) := Group.start as.length (⟨as.map fun a => .inl (.poised a), world, k⟩ : Company W α)
  let c := group.close (drive (fun c =>
    match group.turn Company.turn .driver c with
    | (.waits, c) => (false, c)
    | (_, c) => (true, c)) fuel c)
  (c.values, c.world, c.scheduler)

end AttributeRelease
