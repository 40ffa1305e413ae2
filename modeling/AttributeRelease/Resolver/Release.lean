import AttributeRelease.Graph.Basic

/-!
What a resolution starts from and what it gives out. Without a list of attributes, everything exported
is resolved; with one, every node that can contribute. A node that is not exported itself, or only some
of whose attributes are, gives out no more when it is asked for by name.
-/

namespace AttributeRelease

namespace Graph

variable {W : Type}

/-- Appends a node unless one of its id is there. -/
def appendNode (nodes : List (Node W)) (n : Node W) : List (Node W) :=
  if nodes.any (·.id = n.id) then nodes else nodes ++ [n]

/-- The nodes that a resolution starts from, in order. -/
def roots (g : Graph W) (requested : List String) : List (Node W) :=
  if requested.isEmpty then g.nodes.filter g.isExported
  else requested.foldl (fun roots key => (g.nodes.filter (g.produces key)).foldl appendNode roots) []

end Graph

namespace Resolver

variable {W : Type}

/-- The attribute that a node derives itself, if it may be given out. -/
def ownAttribute (output : Node W × AttributeMap) : Option Attribute :=
  match output.1 with
  | .definition d => if d.exported then output.2.get? d.id else none
  | .connector _ => none

/-- The attributes fetched for a node that it lets out. -/
def fetchedAttributes (output : Node W × AttributeMap) : List Attribute :=
  match output.1 with
  | .definition _ => []
  | .connector c => output.2.values.filter fun a => c.exports a.id

/-- What is given out: attributes with values, those that are derived before those that are fetched. -/
def released (requested : List String) (outputs : List (Node W × AttributeMap)) : AttributeMap :=
  let attributes := outputs.filterMap ownAttribute ++ outputs.flatMap fetchedAttributes
  (attributes.foldl AttributeMap.merge .empty).filter fun key a =>
    (requested.isEmpty || requested.contains key) && !a.isEmpty

end Resolver

end AttributeRelease
