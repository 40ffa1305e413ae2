import AttributeRelease.Attribute.Basic
import AttributeRelease.Request

/-!
Definitions: rules that derive the values of one attribute from attributes that are known already.
-/

namespace AttributeRelease

/-- What a definition works from. -/
structure DefinitionInput where
  /-- The id of the attribute to derive. -/
  id : String
  request : Request
  /-- The values of the source attribute from all dependencies. -/
  values : List Value
  /-- Everything the dependencies contribute. -/
  attributes : AttributeMap

/-- Why a definition cannot be made or gives no values. -/
inductive DefinitionError where
  | invalidConfiguration (reason : String)
  /-- A pattern is refused, in the words of whoever reads it. -/
  | invalidPattern (pattern explanation : String)
  | unusableValue (value reason : String)
  /-- Attributes that belong together have different numbers of values. -/
  | mismatchedCounts (counts : String)
  deriving DecidableEq, Repr

def DefinitionError.message : DefinitionError → String
  | .invalidConfiguration reason => s!"invalid configuration: {reason}"
  | .invalidPattern pattern explanation => s!"invalid configuration: invalid pattern '{pattern}': {explanation}"
  | .unusableValue value reason => s!"unusable input value '{value}': {reason}"
  | .mismatchedCounts counts => s!"source attributes have mismatched value counts: {counts}"

/-- A rule for the values of one attribute. -/
abbrev Definition := DefinitionInput → Except DefinitionError (List Value)

namespace Definition

/-- The values of the source attribute as they are. -/
def simple : Definition := fun input => .ok input.values

def constant (values : List Value) : Definition := fun _ => .ok values

def principal : Definition := fun input => .ok [.string input.request.principal]

end Definition

end AttributeRelease
