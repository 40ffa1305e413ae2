/-!
Activities change a shared world step by step and may wait in between: for some time, for a lock, or to
let others go first. Time is counted in whole milliseconds and passes only while everything waits.
-/

namespace AttributeRelease

/-- An activity in a world `W` that ends with a value. -/
inductive Activity (W α : Type) where
  | done (a : α)
  /-- Changes the world at once and goes on as the world before the change decides. -/
  | act (change : W → W) (next : W → Activity W α)
  /-- The same, but only while nobody else has the lock of that name. -/
  | guarded (lock : String) (change : W → W) (next : W → Activity W α)
  /-- Waits for some milliseconds. -/
  | sleep (ms : Nat) (next : Activity W α)
  /-- Lets others go first. -/
  | pause (next : Activity W α)

namespace Activity

variable {W α β : Type}

def bind : Activity W α → (α → Activity W β) → Activity W β
  | done a, k => k a
  | act change next, k => .act change fun w => (next w).bind k
  | guarded lock change next, k => .guarded lock change fun w => (next w).bind k
  | sleep ms next, k => .sleep ms (next.bind k)
  | pause next, k => .pause (next.bind k)

instance : Monad (Activity W) where
  pure := done
  bind := bind

/-- A step that changes the world and gives a value. -/
def perform (f : W → α × W) : Activity W α := .act (fun w => (f w).2) fun w => .done (f w).1

/-- A step that is taken while nobody else has a lock. -/
def performGuarded (lock : String) (f : W → α × W) : Activity W α :=
  .guarded lock (fun w => (f w).2) fun w => .done (f w).1

/--
Thirty years. Timers end every longer wait there, and not only those that no clock could count to: as measured, one
that is set for 1000000000000 goes off after 946080000000, and what takes 10000000000000 is in time for it.
-/
def maxWait : Nat := 30 * 365 * 24 * 60 * 60 * 1000

/-- How long it really takes to wait for some milliseconds. -/
def waitOf (ms : Nat) : Nat := min ms maxWait

/-- The whole of an activity with nobody else around: its value, the time after it and the world. -/
def runAlone (now : Nat) : Activity W α → W → α × Nat × W
  | done a, w => (a, now, w)
  | act change next, w => runAlone now (next w) (change w)
  | guarded _ change next, w => runAlone now (next w) (change w)
  | sleep ms next, w => runAlone (now + waitOf ms) next w
  | pause next, w => runAlone now next w

end Activity

end AttributeRelease
