import AttributeRelease.Regex.Automaton
import AttributeRelease.Regex.Reader
import AttributeRelease.Regex.Search

/-!
Regular expressions: patterns that were read from their text, and what can be asked of them.
-/

namespace AttributeRelease

/-- A regular expression with the names of its groups. -/
structure Regex where
  pattern : Regex.Pattern
  names : List (String × Nat)

namespace Regex

/-- The regular expression written by a text, `none` if the text is no pattern or asks for too much. -/
def ofText? (text : String) : Option Regex := do
  let (pattern, names) ← Pattern.ofText? text
  if pattern.fits then some ⟨pattern, names⟩ else none

/-- The text of a pattern that is to match a whole text. -/
def wholeText (text : String) : String := "^(?:" ++ text ++ ")$"

/-- The regular expression for whole texts. -/
def whole? (text : String) : Option Regex := ofText? (wholeText text)

/-- The number of groups, the whole match included. -/
def groupCount (r : Regex) : Nat := 1 + r.pattern.groups.foldl max 0

/-- The first match in a text. -/
structure Captures where
  text : List Char
  notes : Notes
  names : List (String × Nat)

/-- The first match in a text, if there is one. -/
def captures? (r : Regex) (text : String) : Option Captures :=
  (r.pattern.find? text.toList).map fun notes =>
    ⟨text.toList, notes, r.names.filter fun n => r.pattern.groups.contains n.2⟩

/-- Whether there is a match anywhere in a text. -/
def isMatch (r : Regex) (text : String) : Bool := (r.pattern.find? text.toList).isSome

/-- The part of the text that a group matched, if it took part. -/
def Captures.group? (c : Captures) (index : Nat) : Option String := do
  let first ← c.notes.lookup (2 * index)
  let last ← c.notes.lookup (2 * index + 1)
  return String.ofList ((c.text.take last).drop first)

/-- The part of the text that a group of this name matched. -/
def Captures.named? (c : Captures) (name : String) : Option String := do
  c.group? (← c.names.lookup name)

end Regex

end AttributeRelease
