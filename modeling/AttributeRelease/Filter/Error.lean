/-!
What can go wrong when a filter is built or applied.
-/

namespace AttributeRelease

/-- An error of the filter. -/
inductive FilterError where
  /-- A pattern is refused, in the words of whoever reads it. -/
  | invalidPattern (pattern explanation : String)
  | duplicatePolicy (id : String)
  /-- A test of one's own did not come to an answer. -/
  | matcher (name reason : String)
  deriving DecidableEq, Repr

def FilterError.message : FilterError → String
  | .invalidPattern pattern explanation => s!"invalid regular expression '{pattern}': {explanation}"
  | .duplicatePolicy id => s!"duplicate filter policy id: {id}"
  | .matcher name reason => s!"matcher '{name}' failed: {reason}"

end AttributeRelease
