import AttributeRelease.Graph.Connector
import AttributeRelease.Keyed
import AttributeRelease.Pairwise.Dialogue

/-!
The connector that gives the pairwise identifier of a principal for the requester. Requesters of one
affinity group are given the same identifiers. The principal is that of the request, or the only value
of a source attribute.
-/

namespace AttributeRelease.Pairwise

/-- How the connector finds the pair of a request. -/
structure ConnectorSettings where
  /-- The attribute under which the identifier is given. -/
  key : String
  /-- The attribute that holds the principal, if it is not that of the request. -/
  sourceKey : Option String := none
  /-- The groups of requesters. -/
  affinity : Keyed String := .empty

namespace ConnectorSettings

def principal (s : ConnectorSettings) (input : ConnectorInput) : Except ConnectorError String := do
  let principal ← match s.sourceKey with
    | none => .ok input.request.principal
    | some source =>
      match ((input.attributes.get? source).map Attribute.values).getD [] with
      | [v] => .ok v.display
      | [] => .error (.missingInput s!"source attribute '{source}'")
      | vs => .error (.invalidInput s!"source attribute '{source}' has {vs.length} values")
  if principal = "" then .error (.missingInput "principal") else .ok principal

def pair (s : ConnectorSettings) (input : ConnectorInput) : Except ConnectorError Pair := do
  match input.request.requester.filter (· ≠ "") with
  | none => .error (.missingInput "requester")
  | some requester => return ⟨(s.affinity.get? requester).getD requester, ← s.principal input⟩

end ConnectorSettings

/-- The connector for a store, which is given as what it does for a pair. -/
def connector {W : Type} (s : ConnectorSettings) (get : Pair → Activity W (Except StoreError String)) :
    Connector W := fun input =>
  match s.pair input with
  | .error e => .done (.error e)
  | .ok pair => (get pair).bind fun
    | .error e => .done (.error (.store e))
    | .ok id => .done (.ok (.ofAttributes [.ofValues s.key [.string id]]))

end AttributeRelease.Pairwise
