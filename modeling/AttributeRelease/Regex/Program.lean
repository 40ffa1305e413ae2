import AttributeRelease.Regex.Pattern

/-!
Patterns as programs. A program is a list of instructions, each of which goes on with the next one
unless it names others; the places in a text where a group begins and ends are noted under the
numbers `2 * i` and `2 * i + 1`.
-/

namespace AttributeRelease.Regex

open Unicode (CharSet)

/-- One instruction; instructions are named by their place in the program. -/
inductive Instruction where
  /-- Passes over one character of a class. -/
  | read (chars : CharSet)
  | check (a : Anchor)
  /-- Goes on at either of two places, of which the first is preferred. -/
  | split (preferred other : Nat)
  | jump (target : Nat)
  | note (slot : Nat)
  /-- The pattern has matched. -/
  | accept

/-- A choice between going into a body and going past it. -/
def Instruction.enter (greedy : Bool) (body past : Nat) : Instruction :=
  if greedy then .split body past else .split past body

/-- The code of `n` rounds of a body of fixed size, the first of which stands at `start`. -/
def rounds (body : Nat → List Instruction) (size start : Nat) : Nat → List Instruction
  | 0 => []
  | n + 1 => body start ++ rounds body size (start + size) n

/-- The code of up to `n` rounds, each of which may be the last; `past` is what comes after them. -/
def optionalRounds (greedy : Bool) (body : Nat → List Instruction) (size past start : Nat) :
    Nat → List Instruction
  | 0 => []
  | n + 1 =>
    .enter greedy (start + 1) past :: body (start + 1) ++
      optionalRounds greedy body size past (start + 1 + size) n

namespace Pattern

def size : Pattern → Nat
  | .empty => 0
  | .literal text => text.length
  | .one _ | .anchor _ => 1
  | .seq a b => a.size + b.size
  | .alt a b => a.size + b.size + 2
  | .repeated _ 0 none p => p.size + 2
  | .repeated _ (least + 1) none p => (least + 1) * p.size + 1
  | .repeated _ least (some most) p => least * p.size + (most - least) * (p.size + 1)
  | .group _ p => p.size + 2

/--
The instructions of a pattern that begins at `start`. Any number of rounds of a body that always moves on is
one choice, to which each round comes back; for other bodies a first choice stands before the rounds and a
second one after each, so that a round without a character ends the repetition.
-/
def code : Pattern → (start : Nat) → List Instruction
  | .empty, _ => []
  | .literal text, _ => text.map fun c => .read (.single c.toNat)
  | .one chars, _ => [.read chars]
  | .anchor a, _ => [.check a]
  | .seq a b, start => a.code start ++ b.code (start + a.size)
  | .alt a b, start =>
    let other := start + 1 + a.size + 1
    .split (start + 1) other :: a.code (start + 1) ++ .jump (other + b.size) :: b.code other
  | .repeated greedy 0 none p, start =>
    let past := start + 1 + p.size + 1
    .enter greedy (start + 1) past :: p.code (start + 1) ++
      [if p.moves then .jump start else .enter greedy (start + 1) past]
  | .repeated greedy (least + 1) none p, start =>
    let last := start + least * p.size
    rounds p.code p.size start (least + 1) ++ [.enter greedy last (last + p.size + 1)]
  | .repeated greedy least (some most) p, start =>
    let after := start + least * p.size
    rounds p.code p.size start least ++
      optionalRounds greedy p.code p.size (after + (most - least) * (p.size + 1)) after (most - least)
  | .group i p, start => .note (2 * i) :: p.code (start + 1) ++ [.note (2 * i + 1)]

/-- The program that looks for a pattern; the whole match counts as group 0. -/
def program (p : Pattern) : Array Instruction := ((group 0 p).code 0 ++ [Instruction.accept]).toArray

end Pattern

end AttributeRelease.Regex
