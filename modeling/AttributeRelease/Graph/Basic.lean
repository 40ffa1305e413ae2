import AttributeRelease.Filter.Policy
import AttributeRelease.Graph.Node

/-!
Resolver graphs. A list of nodes is a graph if its ids are distinct, every edge leads to a node of the
list, every failover is a connector of the list, and no way along edges and failovers leads back to
where it began. Whoever walks a graph need not look for any of this again.
-/

namespace AttributeRelease

/-- Why a list of nodes is no graph. -/
inductive GraphError where
  | duplicateId (id : String)
  | unknownDependency (node dependency : String)
  | unknownFailover (node failover : String)
  | failoverNotConnector (node failover : String)
  | cycle (path : List String)
  deriving DecidableEq, Repr

def GraphError.message : GraphError → String
  | .duplicateId id => s!"duplicate node id '{id}'"
  | .unknownDependency node dependency => s!"node '{node}' depends on unknown node '{dependency}'"
  | .unknownFailover node failover => s!"connector '{node}' names unknown failover '{failover}'"
  | .failoverNotConnector node failover =>
    s!"connector '{node}' names failover '{failover}' which is not a data connector"
  | .cycle path => "dependency cycle: " ++ " -> ".intercalate path

namespace Graph

variable {W : Type}

def findNode (nodes : List (Node W)) (id : String) : Option (Node W) := nodes.find? (·.id = id)

/-- The first thing wrong with what a node names: its dependencies in order, then its failover. -/
def referenceError? (nodes : List (Node W)) (n : Node W) : Option GraphError :=
  match n.dependencies.find? fun d => (findNode nodes d.node).isNone with
  | some d => some (.unknownDependency n.id d.node)
  | none =>
    match n.failover with
    | none => none
    | some failover =>
      match findNode nodes failover with
      | none => some (.unknownFailover n.id failover)
      | some target => if target.isConnector then none else some (.failoverNotConnector n.id failover)

/-- The way from a node on a path back to itself; the path stands last first. -/
def cycleAt (id : String) (path : List String) : List String :=
  id :: (path.takeWhile (· ≠ id)).reverse ++ [id]

/--
Visits a node and everything that can be reached from it. `path` leads to the node, last first, and
`finished` are the nodes from which no cycle can be reached; those on the path grow by one with each
level, so as many levels as there are nodes suffice.
-/
def visit (nodes : List (Node W)) :
    (levels : Nat) → (path finished : List String) → (id : String) → Except GraphError (List String)
  | 0, _, finished, _ => .ok finished
  | levels + 1, path, finished, id =>
    if id ∈ finished then .ok finished
    else if id ∈ path then .error (.cycle (cycleAt id path))
    else
      match findNode nodes id with
      | none => .ok finished
      | some n => do
        let finished ← n.successors.foldlM (fun fs next => visit nodes levels (id :: path) fs next) finished
        return id :: finished

/-- Looks for a cycle from every node in turn. -/
def checkAcyclic (nodes : List (Node W)) : Except GraphError (List String) :=
  (nodes.map Node.id).foldlM (visit nodes (nodes.length + 1) []) []

/-- The first thing wrong with a list of nodes. -/
def error? (nodes : List (Node W)) : Option GraphError :=
  match Filter.firstRepeated [] (nodes.map Node.id) with
  | some id => some (.duplicateId id)
  | none =>
    match nodes.findSome? (referenceError? nodes) with
    | some e => some e
    | none =>
      match checkAcyclic nodes with
      | .error e => some e
      | .ok _ => none

end Graph

/-- A list of nodes that is a graph. -/
structure Graph (W : Type) where
  nodes : List (Node W)
  valid : Graph.error? nodes = none

namespace Graph

variable {W : Type}

def ofNodes (nodes : List (Node W)) : Except GraphError (Graph W) :=
  match h : error? nodes with
  | some e => .error e
  | none => .ok ⟨nodes, h⟩

def node? (g : Graph W) (id : String) : Option (Node W) := findNode g.nodes id

/-- Whether some connector has this node as its failover. -/
def isFailoverTarget (g : Graph W) (id : String) : Bool := g.nodes.any (·.failover = some id)

/-- The definitions, in order. -/
def definitions (g : Graph W) : List DefinitionNode :=
  g.nodes.filterMap fun
    | .definition d => some d
    | .connector _ => none

def isDefinition (g : Graph W) (id : String) : Bool := (g.node? id).any (!·.isConnector)

/-- The connectors, in order. -/
def connectors (g : Graph W) : List (ConnectorNode W) :=
  g.nodes.filterMap fun
    | .definition _ => none
    | .connector c => some c

/-- Whether a node can contribute to an attribute. A connector that is only a failover never does by itself. -/
def produces (g : Graph W) (key : String) : Node W → Bool
  | .definition d => d.id = key
  | .connector c => !g.isFailoverTarget c.id && c.exports key

/-- Whether a node is released when no attributes are named. -/
def isExported (g : Graph W) : Node W → Bool
  | .definition d => d.exported
  | .connector c => !g.isFailoverTarget c.id && c.exportsAnything

end Graph

end AttributeRelease
