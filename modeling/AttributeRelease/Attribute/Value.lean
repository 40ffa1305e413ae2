import AttributeRelease.Bytes.Base64

/-!
Typed attribute values and the three readings of a value: its text as shown to people and templates,
its plain string part, and its scope.
-/

namespace AttributeRelease

/-- A single typed value. -/
inductive Value where
  | string (s : String)
  | scoped (value scope : String)
  | bytes (data : List UInt8)
  | empty
  deriving DecidableEq, Repr

namespace Value

/-- The text of a value: a scoped value reads `value@scope`, bytes read as base64. -/
def display : Value → String
  | .string s => s
  | .scoped value scope => value ++ "@" ++ scope
  | .bytes data => Bytes.toBase64 data
  | .empty => ""

/-- The unscoped string part, if the value has one. -/
def plain? : Value → Option String
  | .string s => some s
  | .scoped value _ => some value
  | .bytes _ | .empty => none

def scope? : Value → Option String
  | .scoped _ scope => some scope
  | _ => none

end Value

end AttributeRelease
