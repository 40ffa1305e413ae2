import AttributeRelease.Form.Basic
import AttributeRelease.Request

/-!
The JSON form of requests. `requester` and `issuer` may be missing or `null`; `metadata` may be
missing but is never `null`.
-/

namespace AttributeRelease

open Json (Document)

namespace Request

/-- A request while it is read. -/
structure Parts where
  principal : Option String := none
  requester : Option (Option String) := none
  issuer : Option (Option String) := none
  metadata : Option (Keyed Json) := none

/-- The metadata: an object of arbitrary values, of which the last of a repeated key counts. -/
def metadataOf : Document → Except FormError (Keyed Json)
  | .object ms ending => do
    let members ← Form.lift (Document.toMembers (Json.maxDepth - 2) ms)
    Form.lift ending.check
    return Keyed.ofList members
  | d => Form.mismatch d

def fields : List (Form.Field Parts) :=
  [⟨"principal", (·.principal.isSome),
    fun d s => return { s with principal := some (← Form.string d) }, false⟩,
   ⟨"requester", (·.requester.isSome),
    fun d s => return { s with requester := some (← Form.nullable Form.string d) }, false⟩,
   ⟨"issuer", (·.issuer.isSome),
    fun d s => return { s with issuer := some (← Form.nullable Form.string d) }, false⟩,
   ⟨"metadata", (·.metadata.isSome),
    fun d s => return { s with metadata := some (← metadataOf d) }, true⟩]

def ofDocument (d : Document) : Except FormError Request := do
  let parts ← Form.record fields {} d
  return {
    principal := ← Form.required parts.principal
    requester := parts.requester.getD none
    issuer := parts.issuer.getD none
    metadata := parts.metadata.getD .empty }

def toJson (r : Request) : Json :=
  .object [("issuer", .ofOption .string r.issuer), ("metadata", .ofMembers r.metadata.entries),
    ("principal", .string r.principal), ("requester", .ofOption .string r.requester)]

end Request

end AttributeRelease
