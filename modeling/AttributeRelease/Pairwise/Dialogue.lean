import AttributeRelease.Pairwise.Error
import AttributeRelease.Activity

/-!
Dialogues with a backend that keeps pairwise identifiers: what is asked of it one after the other, each
question chosen by the answers so far. A dialogue leaves open what the backend is, so it can be held
with any backend, interrupted between two questions, or mixed with others.
-/

namespace AttributeRelease.Pairwise

/-- Those for whom an identifier is issued: a principal, as seen by a relying party. -/
structure Pair where
  relyingParty : String
  principal : String
  deriving DecidableEq, Repr

/-- A course of questions to a backend that ends with a value. -/
inductive Dialogue (α : Type) where
  | done (a : α)
  /-- Asks for the active identifier of a pair. -/
  | find (pair : Pair) (next : Except StoreError (Option String) → Dialogue α)
  /-- Asks to make an identifier the active one of a pair. -/
  | insert (pair : Pair) (id : String) (next : Except StoreError Unit → Dialogue α)
  /-- Asks to retire the active identifier of a pair; the answer says whether there was one. -/
  | deactivate (pair : Pair) (next : Except StoreError Bool → Dialogue α)
  /-- Draws an identifier at random. -/
  | draw (next : String → Dialogue α)
  /-- Draws a number from zero to one. -/
  | toss (next : Float → Dialogue α)
  /-- Waits for some milliseconds. -/
  | sleep (ms : Nat) (next : Dialogue α)

namespace Dialogue

variable {α β : Type}

def bind : Dialogue α → (α → Dialogue β) → Dialogue β
  | done a, k => k a
  | find pair next, k => .find pair fun r => (next r).bind k
  | insert pair id next, k => .insert pair id fun r => (next r).bind k
  | deactivate pair next, k => .deactivate pair fun r => (next r).bind k
  | draw next, k => .draw fun id => (next id).bind k
  | toss next, k => .toss fun chance => (next chance).bind k
  | sleep ms next, k => .sleep ms (next.bind k)

instance : Monad Dialogue where
  pure := done
  bind := bind

end Dialogue

/-- How a world answers the questions. An answer may take its time. -/
structure Backend (W : Type) where
  find : Pair → Activity W (Except StoreError (Option String))
  insert : Pair → String → Activity W (Except StoreError Unit)
  deactivate : Pair → Activity W (Except StoreError Bool)
  draw : Activity W String
  toss : Activity W Float

/-- A dialogue held with a backend. -/
def Dialogue.run {W α : Type} (b : Backend W) : Dialogue α → Activity W α
  | done a => .done a
  | find pair next => (b.find pair).bind fun r => (next r).run b
  | insert pair id next => (b.insert pair id).bind fun r => (next r).run b
  | deactivate pair next => (b.deactivate pair).bind fun r => (next r).run b
  | draw next => b.draw.bind fun id => (next id).run b
  | toss next => b.toss.bind fun chance => (next chance).run b
  | sleep ms next => .sleep ms (next.run b)

end AttributeRelease.Pairwise
