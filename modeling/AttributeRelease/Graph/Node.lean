import AttributeRelease.Definition.Basic
import AttributeRelease.Graph.Connector

/-!
Nodes of a resolver graph. A definition derives one attribute from what its dependencies give, a
connector fetches attributes from outside; both name the nodes they depend on.
-/

namespace AttributeRelease

/-- An edge from a node to one it needs: to all its attributes, or to a single one. -/
structure Dependency where
  node : String
  key : Option String := none
  deriving DecidableEq, Repr

/-- A definition in a graph. -/
structure DefinitionNode where
  id : String
  dependencies : List Dependency := []
  /-- Whether a failure ends the whole resolution. -/
  propagatesErrors : Bool := true
  /-- Whether the attribute may be released; others only feed further nodes. -/
  exported : Bool := true
  /-- The attribute taken from connectors, the node's own id if none is named. -/
  sourceKey : Option String := none
  definition : Definition

/-- The attribute that a definition takes from connectors. -/
def DefinitionNode.source (d : DefinitionNode) : String := d.sourceKey.getD d.id

/-- A connector in a graph. -/
structure ConnectorNode (W : Type) where
  id : String
  dependencies : List Dependency := []
  /-- Whether a failure ends the whole resolution. -/
  propagatesErrors : Bool := true
  /-- The connector asked instead if this one fails. -/
  failover : Option String := none
  /-- The attributes that may be released, all of them if there is no list. -/
  exportedKeys : Option (List String) := none
  connector : Connector W

namespace ConnectorNode

variable {W : Type}

/-- Whether an attribute of the connector may be released. -/
def exports (c : ConnectorNode W) (key : String) : Bool := c.exportedKeys.all (·.contains key)

/-- Whether any attribute of the connector may be released. -/
def exportsAnything (c : ConnectorNode W) : Bool := c.exportedKeys.all (!·.isEmpty)

end ConnectorNode

/-- A node of a graph. -/
inductive Node (W : Type) where
  | definition (d : DefinitionNode)
  | connector (c : ConnectorNode W)

namespace Node

variable {W : Type}

def id : Node W → String
  | .definition d => d.id
  | .connector c => c.id

/-- The edges of a node, in order. -/
def dependencies : Node W → List Dependency
  | .definition d => d.dependencies
  | .connector c => c.dependencies

/-- Whether a failure of the node ends the whole resolution. -/
def propagatesErrors : Node W → Bool
  | .definition d => d.propagatesErrors
  | .connector c => c.propagatesErrors

def failover : Node W → Option String
  | .definition _ => none
  | .connector c => c.failover

def isConnector : Node W → Bool
  | .definition _ => false
  | .connector _ => true

/-- The nodes that must be asked before or instead of this one. -/
def successors (n : Node W) : List String := n.dependencies.map Dependency.node ++ n.failover.toList

end Node

/-- Edges in order, each at its first place only. -/
def distinctDependencies (dependencies : List Dependency) : List Dependency :=
  dependencies.foldl (fun ds d => if d ∈ ds then ds else ds ++ [d]) []

end AttributeRelease
