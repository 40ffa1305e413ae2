/-!
Failures of a store of pairwise identifiers, by kind. The kind decides whether trying again makes sense.
-/

namespace AttributeRelease.Pairwise

/-- The kinds of failures. -/
inductive ErrorKind where
  /-- The store could not be reached. -/
  | connectivity
  /-- The store was busy for too long. -/
  | lockTimeout
  /-- A rule of uniqueness forbids the entry. -/
  | duplicate
  | fatal
  deriving DecidableEq, Repr

def ErrorKind.name : ErrorKind → String
  | .connectivity => "Connectivity"
  | .lockTimeout => "LockTimeout"
  | .duplicate => "Duplicate"
  | .fatal => "Fatal"

def ErrorKind.ofName? (name : String) : Option ErrorKind :=
  [.connectivity, .lockTimeout, .duplicate, .fatal].find? (·.name = name)

/-- A failure of a store. -/
structure StoreError where
  kind : ErrorKind
  reason : String
  deriving DecidableEq, Repr

def StoreError.message (e : StoreError) : String := s!"{e.kind.name} store error: {e.reason}"

end AttributeRelease.Pairwise
