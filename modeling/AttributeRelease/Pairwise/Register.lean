import AttributeRelease.Pairwise.Dialogue

/-!
A register of identifiers in memory. A pair has at most one active identifier, and an identifier that
was ever issued is never issued again, whether it is still active or not.
-/

namespace AttributeRelease.Pairwise

/-- The active identifiers of pairs, and all identifiers ever issued. -/
structure Register where
  active : List (Pair × String) := []
  issued : List String := []
  deriving DecidableEq

namespace Register

def find? (r : Register) (pair : Pair) : Option String := r.active.lookup pair

def insert (r : Register) (pair : Pair) (id : String) : Except StoreError Unit × Register :=
  if (r.find? pair).isSome then (.error ⟨.duplicate, "pair already has an active identifier"⟩, r)
  else if id ∈ r.issued then (.error ⟨.duplicate, "identifier already issued"⟩, r)
  else (.ok (), ⟨(pair, id) :: r.active, id :: r.issued⟩)

/-- Retires the active identifier of a pair and says whether there was one. -/
def deactivate (r : Register) (pair : Pair) : Bool × Register :=
  ((r.find? pair).isSome, { r with active := r.active.filter (·.1 ≠ pair) })

def size (r : Register) : Nat := r.active.length

end Register

end AttributeRelease.Pairwise
