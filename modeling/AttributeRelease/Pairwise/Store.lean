import AttributeRelease.Pairwise.Computed
import AttributeRelease.Pairwise.Retry

/-!
Stores of pairwise identifiers. The first identifier issued to a pair is kept and given out on every
later request. It is looked for and then inserted; if the insertion meets an entry of somebody else who
was quicker, that entry is read and adopted, so everyone comes to the same identifier.
-/

namespace AttributeRelease.Pairwise

/-- Where a new identifier comes from. -/
inductive InitialId where
  | computed (g : Generator)
  | random

def InitialId.candidate (source : InitialId) (pair : Pair) : Dialogue String :=
  match source with
  | .computed g => .done (g.generate pair)
  | .random => .draw .done

/-- How identifiers are issued. -/
structure Store where
  initial : InitialId
  retry : RetryPolicy
  /-- Computes what is given out, but not kept, while the backend stays out of reach. -/
  fallback : Option Generator := none

namespace Store

/-- How many candidates are tried when identifiers turn out to be taken. -/
def maxCandidates : Nat := 3

/-- The answer when every candidate was taken. -/
def exhausted : StoreError := ⟨.fatal, "could not allocate an unused pairwise identifier"⟩

/-- Issues an identifier to a pair; a candidate that is taken is followed by random ones. -/
def allocate (pair : Pair) (candidate : Dialogue String) : (tries : Nat) → Dialogue (Except StoreError String)
  | 0 => .done (.error exhausted)
  | tries + 1 => candidate.bind fun id => .insert pair id fun
    | .ok () => .done (.ok id)
    | .error e =>
      if e.kind = .duplicate then .find pair fun
        | .error e => .done (.error e)
        | .ok (some id) => .done (.ok id)
        | .ok none => allocate pair (.draw .done) tries
      else .done (.error e)

/-- The identifier of a pair, issued if there is none, without trying again. -/
def getOnce (s : Store) (pair : Pair) : Dialogue (Except StoreError String) :=
  .find pair fun
    | .error e => .done (.error e)
    | .ok (some id) => .done (.ok id)
    | .ok none => allocate pair (s.initial.candidate pair) maxCandidates

/-- The identifier of a pair, issued if there is none. -/
def get (s : Store) (pair : Pair) : Dialogue (Except StoreError String) :=
  (s.retry.retry (s.getOnce pair)).bind fun
    | .ok id => .done (.ok id)
    | .error e =>
      match s.retry.isRetryable e, s.fallback with
      | true, some g => .done (.ok (g.generate pair))
      | _, _ => .done (.error e)

/-- Retires the identifier of a pair; the next request issues a new one. -/
def deactivate (s : Store) (pair : Pair) : Dialogue (Except StoreError Bool) :=
  s.retry.retry (.deactivate pair .done)

end Store

end AttributeRelease.Pairwise
