import AttributeRelease.Text.Lowercase

/-!
Comparison of texts with one literal text, in which case counts or does not. Texts that differ only
in case are those with the same lower case.
-/

namespace AttributeRelease

/-- A literal text to compare others with. -/
structure TextMatch where
  value : String
  caseSensitive : Bool
  deriving DecidableEq, Repr

namespace TextMatch

def exact (value : String) : TextMatch := ⟨value, true⟩

def caseInsensitive (value : String) : TextMatch := ⟨value, false⟩

/-- Whether case is ignored, the other way to look at `caseSensitive`. -/
def ignoreCase (m : TextMatch) : Bool := !m.caseSensitive

def withIgnoreCase (m : TextMatch) (ignoreCase : Bool) : TextMatch := { m with caseSensitive := !ignoreCase }

def accepts (m : TextMatch) (text : String) : Bool :=
  if m.caseSensitive then text = m.value else Text.lowercase text = Text.lowercase m.value

end TextMatch

end AttributeRelease
