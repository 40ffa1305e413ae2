import AttributeRelease.Filter.Requirement
import AttributeRelease.Graph.Node
import AttributeRelease.Text.Quoted

/-!
Descriptions of nodes and tests for diagnostic output. What has no text of its own, such as a rule
or a connector, is left out and shown as two dots.
-/

namespace AttributeRelease

namespace Description

def record (name : String) (fields : List (String × String)) : String :=
  name ++ " \x7b " ++ String.join (fields.map fun f => f.1 ++ ": " ++ f.2 ++ ", ") ++ ".. \x7d"

def list (items : List String) : String := "[" ++ ", ".intercalate items ++ "]"

def option {α : Type} (f : α → String) : Option α → String
  | none => "None"
  | some a => "Some(" ++ f a ++ ")"

def bool (b : Bool) : String := if b then "true" else "false"

end Description

def Dependency.describe (d : Dependency) : String :=
  "Dependency \x7b node_id: " ++ Text.quoted d.node ++ ", source_attribute_id: " ++
    Description.option Text.quoted d.key ++ " \x7d"

def DefinitionNode.describe (d : DefinitionNode) : String :=
  Description.record "DefinitionNode"
    [("id", Text.quoted d.id), ("dependencies", Description.list (d.dependencies.map Dependency.describe)),
      ("propagate_errors", Description.bool d.propagatesErrors), ("exported", Description.bool d.exported),
      ("source_attribute_id", Description.option Text.quoted d.sourceKey)]

def ConnectorNode.describe {W : Type} (c : ConnectorNode W) : String :=
  Description.record "ConnectorNode"
    [("id", Text.quoted c.id), ("dependencies", Description.list (c.dependencies.map Dependency.describe)),
      ("propagate_errors", Description.bool c.propagatesErrors),
      ("failover_connector_id", Description.option Text.quoted c.failover),
      ("exported_attribute_ids",
        Description.option (fun keys => Description.list (keys.map Text.quoted)) c.exportedKeys)]

def Node.describe {W : Type} : Node W → String
  | .definition d => d.describe
  | .connector c => c.describe

def ValuePredicate.describe (p : ValuePredicate) : String :=
  Description.record "CustomMatcher" [("name", Text.quoted p.name)]

def RequestPredicate.describe (p : RequestPredicate) : String :=
  Description.record "CustomRequirement" [("name", Text.quoted p.name)]

end AttributeRelease
