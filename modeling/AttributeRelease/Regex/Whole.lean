import AttributeRelease.Filter.Error
import AttributeRelease.Regex.Basic

/-!
Regular expressions for whole texts, kept together with the pattern they were made from.
-/

namespace AttributeRelease

/-- A pattern and the regular expression that looks for it in whole texts. -/
structure WholeRegex where
  text : String
  regex : Regex
  compiled : Regex.whole? text = some regex

namespace WholeRegex

/-- The regular expression for a pattern, `none` if the pattern is refused. -/
def ofText? (text : String) : Option WholeRegex :=
  match h : Regex.whole? text with
  | some regex => some ⟨text, regex, h⟩
  | none => none

/-- The regular expression for a pattern; `explain` says why a text is refused. -/
def read (explain : String → String) (text : String) : Except FilterError WholeRegex :=
  match ofText? text with
  | some r => .ok r
  | none => .error (.invalidPattern text (explain (Regex.wholeText text)))

def accepts (r : WholeRegex) (text : String) : Bool := r.regex.isMatch text

end WholeRegex

end AttributeRelease
