import AttributeRelease.Filter.Release
import AttributeRelease.Form.Attribute
import AttributeRelease.Form.Error
import AttributeRelease.Resolver.Basic

/-!
The JSON form of what resolutions and filters come to.
-/

namespace AttributeRelease

def Outcome.toJson : Outcome → Json
  | .resolved attributes => .object [("resolved", attributes.toJson)]
  | .suppressed e => .object [("suppressed", e.toJson)]
  | .failed e => .object [("failed", e.toJson)]

/-- The members of the JSON form of what a filter releases. -/
def Filter.Released.members (r : Filter.Released) : List (String × Json) :=
  [("released", r.attributes.toJson), ("active_policies", .array (r.activePolicies.map .string)),
    ("matcher_failures", .ofNat r.failures)]

def Resolver.Resolution.members (r : Resolver.Resolution) : List (String × Json) :=
  let ids := (r.outcomes.map Prod.fst).mergeSort fun a b => a ≤ b
  [("attributes", r.attributes.toJson), ("evaluated", .array (ids.map .string)),
    ("outcomes", .ofMembers (r.outcomes.map fun (id, o) => (id, o.toJson)))]

end AttributeRelease
