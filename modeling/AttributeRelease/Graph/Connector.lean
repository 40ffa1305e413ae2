import AttributeRelease.Attribute.Basic
import AttributeRelease.Pairwise.Error
import AttributeRelease.Activity
import AttributeRelease.Request
import AttributeRelease.Text.Duration

/-!
Data connectors: sources of attributes that may take their time and may fail.
-/

namespace AttributeRelease

/-- What a connector works from. -/
structure ConnectorInput where
  request : Request
  /-- Everything the dependencies contribute. -/
  attributes : AttributeMap

/-- Why a connector gives no attributes. -/
inductive ConnectorError where
  | backend (reason : String)
  /-- The fetch took longer than so many milliseconds. -/
  | timeout (ms : Nat)
  | missingInput (what : String)
  | invalidInput (reason : String)
  | store (e : Pairwise.StoreError)
  deriving DecidableEq, Repr

def ConnectorError.message : ConnectorError → String
  | .backend reason => s!"backend error: {reason}"
  | .timeout ms => s!"fetch timed out after {Text.duration ms}"
  | .missingInput what => s!"missing input: {what}"
  | .invalidInput reason => s!"invalid input: {reason}"
  | .store e => s!"pairwise store: {e.message}"

/-- A source of attributes in a world `W`. -/
abbrev Connector (W : Type) := ConnectorInput → Activity W (Except ConnectorError AttributeMap)

namespace Connector

variable {W : Type}

def constant (attributes : AttributeMap) : Connector W := fun _ => .done (.ok attributes)

end Connector

end AttributeRelease
