import AttributeRelease.Definition.Basic
import AttributeRelease.Graph.Connector

/-!
Failures of a resolution: which node failed, and why.
-/

namespace AttributeRelease

/-- Why a resolution ends without attributes. -/
inductive ResolutionError where
  | unknownNode (id : String)
  | connector (node : String) (source : ConnectorError)
  | definition (node : String) (source : DefinitionError)
  deriving DecidableEq, Repr

def ResolutionError.message : ResolutionError → String
  | .unknownNode id => s!"unknown node '{id}'"
  | .connector node source => s!"connector '{node}' failed: {source.message}"
  | .definition node source => s!"definition '{node}' failed: {source.message}"

end AttributeRelease
