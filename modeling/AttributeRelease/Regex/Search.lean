import AttributeRelease.Regex.Program

/-!
Looking for a match. All ways to match are followed side by side through the text, ordered by
preference; of two that arrive at one instruction only the preferred one goes on. So the work is
bounded by the size of the program times the length of the text, and the first match in the order of
preference is found.
-/

namespace AttributeRelease.Regex

open Unicode (CharSet)

/-- Noted places by their slots, the latest first. -/
abbrev Notes := List (Nat × Nat)

/-- A way to match so far: the next instruction and the places noted. -/
structure Thread where
  next : Nat
  notes : Notes

/-- Where the threads of one place stand: those that wait for a character, last first, and the match
that was reached. -/
structure Front where
  waiting : List (CharSet × Thread) := []
  reached : Option Notes := none

/--
Follows threads at one place up to the next character, in order of preference, and stops when one of
them has matched. Each step drops a thread or marks an instruction and adds at most two threads, so
`threads.length + 2 * program.size` steps suffice.
-/
def advance (program : Array Instruction) (before after : Option Char) (place : Nat) :
    (fuel : Nat) → (threads : List Thread) → (seen : Array Bool) → Front → Front
  | 0, _, _, front | _, [], _, front => front
  | fuel + 1, t :: threads, seen, front =>
    if seen.getD t.next true then advance program before after place fuel threads seen front
    else
      let seen := seen.setIfInBounds t.next true
      match program[t.next]? with
      | none => advance program before after place fuel threads seen front
      | some (.read chars) =>
        advance program before after place fuel threads seen
          { front with waiting := (chars, ⟨t.next + 1, t.notes⟩) :: front.waiting }
      | some (.check a) =>
        advance program before after place fuel
          (if a.holds before after then ⟨t.next + 1, t.notes⟩ :: threads else threads) seen front
      | some (.split preferred other) =>
        advance program before after place fuel
          (⟨preferred, t.notes⟩ :: ⟨other, t.notes⟩ :: threads) seen front
      | some (.jump target) =>
        advance program before after place fuel (⟨target, t.notes⟩ :: threads) seen front
      | some (.note slot) =>
        advance program before after place fuel (⟨t.next + 1, (slot, place) :: t.notes⟩ :: threads)
          seen front
      | some .accept => { front with reached := some t.notes }

/--
Goes through the rest of a text. As long as nothing was found, a match may also begin at each
further place; it is the least preferred.
-/
def run (program : Array Instruction) (before : Option Char) (place : Nat) (threads : List Thread)
    (found : Option Notes) (text : List Char) : Option Notes :=
  let threads := if found.isSome then threads else threads ++ [⟨0, []⟩]
  let front := advance program before text.head? place (threads.length + 2 * program.size) threads
    (Array.replicate program.size false) {}
  let found := front.reached <|> found
  match text with
  | [] => found
  | c :: rest =>
    let threads := front.waiting.reverse.filterMap fun (chars, t) =>
      if chars.contains c.toNat then some t else none
    if threads.isEmpty && found.isSome then found
    else run program (some c) (place + 1) threads found rest

/-- The places noted by the first match in a text. -/
def Pattern.find? (p : Pattern) (text : List Char) : Option Notes := run p.program none 0 [] none text

end AttributeRelease.Regex
