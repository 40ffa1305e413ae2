import AttributeRelease.Unicode.Property

/-!
Patterns of regular expressions. A pattern is built from texts, classes of characters and conditions on
places between characters; of the ways to match, the earlier part of a choice is preferred, and a
repetition prefers more rounds if it is greedy and fewer if it is not.
-/

namespace AttributeRelease.Regex

open Unicode

/-- How the characters before and after a place make it the edge of a word. -/
inductive Edge where
  | any
  | none
  | start
  | finish
  | notAfterWord
  | notBeforeWord
  deriving DecidableEq, Repr

/-- A condition on a place in a text. -/
inductive Anchor where
  | textStart
  | textEnd
  /-- Line starts and ends; lines end with a line feed, or also with a carriage return. -/
  | lineStart (carriageReturns : Bool)
  | lineEnd (carriageReturns : Bool)
  /-- Edges of words, which consist of ASCII letters, digits and underscores or of all word characters. -/
  | wordEdge (edge : Edge) (ascii : Bool)
  deriving DecidableEq, Repr

/-- A regular expression. Sequences and choices of several parts nest to the right. -/
inductive Pattern where
  | empty
  | literal (text : List Char)
  /-- One character of a class. -/
  | one (chars : CharSet)
  | anchor (a : Anchor)
  | seq (first second : Pattern)
  | alt (first second : Pattern)
  | repeated (greedy : Bool) (least : Nat) (most : Option Nat) (body : Pattern)
  | group (index : Nat) (body : Pattern)
  deriving DecidableEq, Repr

/-- The letters, digits and underscores of ASCII. -/
def asciiWord : CharSet := .ofText "30-39 41-5a 5f 61-7a"

/-- Whether a character, if there is one, is part of a word. -/
def isWord (ascii : Bool) : Option Char → Bool
  | some c => (if ascii then asciiWord else Property.word).contains c.toNat
  | none => false

/-- Whether the place between two characters, or an end of the text, is such an edge. -/
def Edge.holds (edge : Edge) (wordBefore wordAfter : Bool) : Bool :=
  match edge with
  | .any => wordBefore != wordAfter
  | .none => wordBefore == wordAfter
  | .start => !wordBefore && wordAfter
  | .finish => wordBefore && !wordAfter
  | .notAfterWord => !wordBefore
  | .notBeforeWord => !wordAfter

/-- Whether the condition holds between two characters; `none` is an end of the text. -/
def Anchor.holds (a : Anchor) (before after : Option Char) : Bool :=
  match a with
  | .textStart => before.isNone
  | .textEnd => after.isNone
  | .lineStart false => before.isNone || before = some '\n'
  | .lineEnd false => after.isNone || after = some '\n'
  | .lineStart true =>
    before.isNone || before = some '\n' || (before = some '\r' && after ≠ some '\n')
  | .lineEnd true =>
    after.isNone || after = some '\r' || (after = some '\n' && before ≠ some '\r')
  | .wordEdge edge ascii => edge.holds (isWord ascii before) (isWord ascii after)

namespace Pattern

/-- The groups that can take part in a match, in the order of the pattern. -/
def groups : Pattern → List Nat
  | .empty | .literal _ | .one _ | .anchor _ => []
  | .seq a b | .alt a b => a.groups ++ b.groups
  | .repeated _ _ _ p => p.groups
  | .group i p => i :: p.groups

def mentions (test : Anchor → Bool) : Pattern → Bool
  | .empty | .literal _ | .one _ => false
  | .anchor a => test a
  | .seq a b | .alt a b => a.mentions test || b.mentions test
  | .repeated _ _ _ p | .group _ p => p.mentions test

/-- Whether the pattern matches nothing but the empty text. A class without characters does not count. -/
def staysInPlace : Pattern → Bool
  | .empty | .anchor _ => true
  | .literal _ | .one _ => false
  | .seq a b | .alt a b => a.staysInPlace && b.staysInPlace
  | .repeated _ _ most p => most.isSome && p.staysInPlace
  | .group _ p => p.staysInPlace

/-- The least number of characters that a match has, unless some part of the pattern matches nothing at all. -/
def leastLength : Pattern → Option Nat
  | .empty | .anchor _ => some 0
  | .literal text => some text.length
  | .one chars => if chars.ranges.isEmpty then none else some 1
  | .seq a b => return (← a.leastLength) + (← b.leastLength)
  | .alt a b => return min (← a.leastLength) (← b.leastLength)
  | .repeated _ least _ p => return least * (← p.leastLength)
  | .group _ p => p.leastLength

/-- Whether every match of the pattern has a character. -/
def moves (p : Pattern) : Bool := p.leastLength.any (0 < ·)

def items : Pattern → List Pattern
  | .empty => []
  | .seq a b => a :: b.items
  | p => [p]

def branches : Pattern → List Pattern
  | .alt a b => a :: b.branches
  | p => [p]

end Pattern

end AttributeRelease.Regex
