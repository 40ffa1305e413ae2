import AttributeRelease.Graph.Node

/-!
The input of a node, put together from what its dependencies gave. Attributes of one id from several
dependencies become one attribute, the values in the order of the dependencies.
-/

namespace AttributeRelease

/-- What came over an edge. -/
structure Supply where
  dependency : Dependency
  attributes : AttributeMap

namespace Supply

/-- The attributes that the edge lets through. -/
def contribution (s : Supply) : List Attribute :=
  match s.dependency.key with
  | some key => (s.attributes.get? key).toList
  | none => s.attributes.values

/--
The values of the source attribute: the one the edge names; else a definition gives its own attribute,
and a connector the one that the consumer calls its source.
-/
def sourceValues (s : Supply) (isDefinition : String → Bool) (source : String) : List Value :=
  let key := match s.dependency.key with
    | some key => key
    | none => if isDefinition s.dependency.node then s.dependency.node else source
  ((s.attributes.get? key).map Attribute.values).getD []

/-- Everything that came over some edges. -/
def gather (supplies : List Supply) : AttributeMap :=
  supplies.foldl (fun m s => s.contribution.foldl AttributeMap.merge m) .empty

end Supply

namespace DefinitionNode

def input (d : DefinitionNode) (isDefinition : String → Bool) (request : Request) (supplies : List Supply) :
    DefinitionInput :=
  { id := d.id
    request
    values := supplies.foldl (fun vs s => appendAllNew vs (s.sourceValues isDefinition d.source)) []
    attributes := Supply.gather supplies }

/-- The attribute that a definition derives, alone in a map. -/
def compute (d : DefinitionNode) (input : DefinitionInput) : Except DefinitionError AttributeMap :=
  (d.definition input).map fun values => .ofAttributes [.ofValues d.id values]

end DefinitionNode

end AttributeRelease
