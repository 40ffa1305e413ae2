import AttributeRelease.Pairwise.Dialogue

/-!
A table of identifiers in a database. Retired rows stay in the table. Two rules of uniqueness are
checked when a row is inserted: among active rows the pair, and among all rows the identifier. The
table may be missing, locked by somebody else, or out of reach because the connections are closed.
-/

namespace AttributeRelease.Pairwise

/-- A row: an identifier issued to a pair, and whether it is active. -/
structure Row where
  pair : Pair
  id : String
  isActive : Bool
  deriving DecidableEq, Repr

/-- A database that may hold the table. -/
structure Table where
  /-- The rows in the order of insertion, if the table exists. -/
  rows : Option (List Row) := some []
  closed : Bool := false
  locked : Bool := false
  deriving DecidableEq, Repr

namespace Table

/-- The answer when all connections are closed. -/
def closedError : StoreError := ⟨.fatal, "attempted to acquire a connection on a closed pool"⟩

/-- The answer while somebody else holds a lock. -/
def lockedError : StoreError := ⟨.lockTimeout, "database is locked"⟩

/-- The answer when the table is missing. -/
def missingError : StoreError :=
  ⟨.fatal, "error returned from database: (code: 1) no such table: pairwise_ids"⟩

/-- The answer when the pair of a new row has an active row already. -/
def pairTakenError : StoreError :=
  ⟨.duplicate, "UNIQUE constraint failed: pairwise_ids.relying_party, pairwise_ids.principal"⟩

/-- The answer when the identifier of a new row was issued before. -/
def idTakenError : StoreError := ⟨.duplicate, "UNIQUE constraint failed: pairwise_ids.persistent_id"⟩

/-- Whether the database can be used at all. -/
def access (t : Table) : Except StoreError Unit :=
  if t.closed then .error closedError else if t.locked then .error lockedError else .ok ()

/-- The rows of the table, if they can be read. -/
def readRows (t : Table) : Except StoreError (List Row) := do
  t.access
  match t.rows with
  | some rows => return rows
  | none => throw missingError

def Row.isActiveFor (pair : Pair) (row : Row) : Bool := row.isActive && row.pair = pair

def find (t : Table) (pair : Pair) : Except StoreError (Option String) := do
  return ((← t.readRows).find? (Row.isActiveFor pair)).map Row.id

def insert (t : Table) (pair : Pair) (id : String) : Except StoreError Unit × Table :=
  match t.readRows with
  | .error e => (.error e, t)
  | .ok rows =>
    if rows.any (Row.isActiveFor pair) then (.error pairTakenError, t)
    else if rows.any (·.id = id) then (.error idTakenError, t)
    else (.ok (), { t with rows := some (rows ++ [⟨pair, id, true⟩]) })

/-- Retires the active row of a pair and says whether there was one. -/
def deactivate (t : Table) (pair : Pair) : Except StoreError Bool × Table :=
  match t.readRows with
  | .error e => (.error e, t)
  | .ok rows =>
    (.ok (rows.any (Row.isActiveFor pair)),
      { t with
        rows := some (rows.map fun row =>
          if Row.isActiveFor pair row then { row with isActive := false } else row) })

def create (t : Table) : Except StoreError Unit × Table :=
  match t.access with
  | .error e => (.error e, t)
  | .ok () => (.ok (), { t with rows := some (t.rows.getD []) })

def drop (t : Table) : Table := { t with rows := none }

def close (t : Table) : Table := { t with closed := true }

/-- Puts a lock on the database, or takes it off. -/
def lock (t : Table) (locked : Bool) : Table := { t with locked }

end Table

end AttributeRelease.Pairwise
