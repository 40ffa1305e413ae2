import AttributeRelease.Pairwise.Register
import AttributeRelease.Pairwise.Table

/-!
Where identifiers are kept: in memory, or in a table of a database. Both are asked in the same way.
-/

namespace AttributeRelease.Pairwise

/-- A place where identifiers are kept. -/
inductive Keeper where
  | register (r : Register)
  | table (t : Table)
  deriving DecidableEq

namespace Keeper

def find (k : Keeper) (pair : Pair) : Except StoreError (Option String) :=
  match k with
  | .register r => .ok (r.find? pair)
  | .table t => t.find pair

def insert (k : Keeper) (pair : Pair) (id : String) : Except StoreError Unit × Keeper :=
  match k with
  | .register r => ((r.insert pair id).1, .register (r.insert pair id).2)
  | .table t => ((t.insert pair id).1, .table (t.insert pair id).2)

/-- Retires the active identifier of a pair and says whether there was one. -/
def deactivate (k : Keeper) (pair : Pair) : Except StoreError Bool × Keeper :=
  match k with
  | .register r => (.ok (r.deactivate pair).1, .register (r.deactivate pair).2)
  | .table t => ((t.deactivate pair).1, .table (t.deactivate pair).2)

/-- The number of pairs with an active identifier, where it is known without asking a database. -/
def size? : Keeper → Option Nat
  | .register r => some r.size
  | .table _ => none

/-- Changes the table, if there is one. -/
def mapTable (k : Keeper) (f : Table → Table) : Keeper :=
  match k with
  | .register r => .register r
  | .table t => .table (f t)

end Keeper

end AttributeRelease.Pairwise
