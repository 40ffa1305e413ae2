import AttributeRelease.Double
import AttributeRelease.Pairwise.Dialogue

/-!
Trying again after failures. Between two attempts a delay is waited for that grows by a constant factor
up to a limit, and may then be spread by chance. Delays are computed in doubles of seconds and taken to whole
nanoseconds, halves to the even neighbour; a delay that is no duration counts as the limit.
-/

namespace AttributeRelease.Pairwise

/-- When and how often to try again. Delays are in milliseconds. -/
structure RetryPolicy where
  maxAttempts : Nat
  baseDelay : Nat
  maxDelay : Nat
  factor : Float
  /-- Whether delays are spread by chance, so that not all who failed come back at a time. -/
  jitter : Bool
  retryable : List ErrorKind

namespace RetryPolicy

/-- Whether a failure may pass. -/
def isRetryable (p : RetryPolicy) (e : StoreError) : Bool := p.retryable.contains e.kind

def seconds (ms : Nat) : Float :=
  (ms / 1000).toUInt64.toFloat + (ms % 1000 * 1000000).toUInt64.toFloat / 1e9

/-- A product of `r` and the `n`-th power of `x`, by squaring. -/
def scaleBy (r x : Float) (n : Nat) : Float :=
  let r := if n % 2 = 1 then r * x else r
  if h : n / 2 = 0 then r else scaleBy r (x * x) (n / 2)
termination_by n
decreasing_by omega

/-- The smaller of two numbers; what is no number loses. -/
def lesser (x y : Float) : Float := if x.isNaN then y else if y.isNaN then x else if x < y then x else y

/-- A quotient rounded to the nearest integer, a half to the even one. -/
def roundHalfEven (n d : Nat) : Nat :=
  let q := n / d
  let twice := 2 * (n % d)
  if twice < d then q else if twice = d ∧ q % 2 = 0 then q else q + 1

/-- The weight of doubles just below `2 ^ 64`. -/
def maxWeight : Nat := 1086

/-- Seconds as whole nanoseconds, unless they are negative, no number, or out of range. -/
def nanoseconds? (x : Float) : Option Nat :=
  let m := Double.magnitude x.toBits
  if x < 0.0 ∨ maxWeight < m.weight then none
  else
    let n := m.units * 1000000000
    some (if Double.unitWeight ≤ m.weight then n <<< (m.weight - Double.unitWeight)
      else roundHalfEven n (1 <<< (Double.unitWeight - m.weight)))

/-- The delay after a number of failed attempts before the last one, in seconds. -/
def delaySeconds (p : RetryPolicy) (earlier : Nat) : Float :=
  lesser (seconds p.baseDelay * scaleBy 1.0 p.factor earlier) (seconds p.maxDelay)

/-- A delay in whole milliseconds. -/
def milliseconds (p : RetryPolicy) (x : Float) : Nat :=
  match nanoseconds? x with
  | some ns => (ns + 999999) / 1000000
  | none => p.maxDelay

def delay (p : RetryPolicy) (earlier : Nat) : Nat := p.milliseconds (p.delaySeconds earlier)

/-- The delay spread by chance, from a half of it to one and a half; only then it may pass the limit. -/
def spreadDelay (p : RetryPolicy) (chance : Float) (earlier : Nat) : Nat :=
  p.milliseconds (p.delaySeconds earlier * (0.5 + chance))

/-- Waits for the delay and goes on. -/
def pause {α : Type} (p : RetryPolicy) (earlier : Nat) (next : Dialogue α) : Dialogue α :=
  if p.jitter then .toss fun chance => .sleep (p.spreadDelay chance earlier) next
  else .sleep (p.delay earlier) next

/-- Tries again up to `more` times after `earlier` failed attempts. -/
def retryFrom {α : Type} (p : RetryPolicy) (body : Dialogue (Except StoreError α)) (earlier : Nat) :
    (more : Nat) → Dialogue (Except StoreError α)
  | 0 => body
  | more + 1 => body.bind fun
    | .ok a => .done (.ok a)
    | .error e =>
      if p.isRetryable e then p.pause earlier (retryFrom p body (earlier + 1) more)
      else .done (.error e)

/-- Holds a dialogue, and again as long as it fails in a way that may pass and attempts are left. -/
def retry {α : Type} (p : RetryPolicy) (body : Dialogue (Except StoreError α)) :
    Dialogue (Except StoreError α) :=
  retryFrom p body 0 (p.maxAttempts - 1)

end RetryPolicy

end AttributeRelease.Pairwise
