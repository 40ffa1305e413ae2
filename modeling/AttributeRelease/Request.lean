import AttributeRelease.Json.Basic
import AttributeRelease.Keyed

/-!
The circumstances of one request: who is asked about, who asks, and what else is known.
-/

namespace AttributeRelease

/-- A request for attributes of a principal. -/
structure Request where
  principal : String
  /-- The relying party to whom the attributes go. -/
  requester : Option String := none
  /-- The entity that issues the attributes. -/
  issuer : Option String := none
  metadata : Keyed Json := .empty
  deriving DecidableEq

end AttributeRelease
