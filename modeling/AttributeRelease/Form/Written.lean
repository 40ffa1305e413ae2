import AttributeRelease.Form.Attribute
import AttributeRelease.Form.Request
import AttributeRelease.Form.TextMatch
import AttributeRelease.Json.Reader

/-!
The texts under which values, attributes, text matches and requests are kept. The members of an object stand in the
order of the fields, not in that of their keys. The metadata of a request have no order, so theirs is given.
-/

namespace AttributeRelease

namespace Value

/-- A value with its members in the order in which they are written. -/
def written (v : Value) : Json :=
  match v with
  | .string s => .object [("type", .string v.kind.name), ("value", .string s)]
  | .scoped value scope =>
    .object [("type", .string v.kind.name),
      ("value", .object [("value", .string value), ("scope", .string scope)])]
  | .bytes data =>
    .object [("type", .string v.kind.name), ("value", .array (data.map fun b => .ofNat b.toNat))]
  | .empty => .object [("type", .string v.kind.name)]

def toText (v : Value) : String := v.written.toText

def ofText (text : String) : Except FormError Value := Form.ofText ofDocument (Json.readText text)

end Value

namespace Attribute

def written (a : Attribute) : Json :=
  .object [("id", .string a.id), ("values", .array (a.values.map Value.written))]

def toText (a : Attribute) : String := a.written.toText

def ofText (text : String) : Except FormError Attribute := Form.ofText ofDocument (Json.readText text)

end Attribute

namespace TextMatch

def written (m : TextMatch) : Json :=
  .object [("value", .string m.value), ("case_sensitive", .bool m.caseSensitive)]

def toText (m : TextMatch) : String := m.written.toText

def ofText (text : String) : Except FormError TextMatch := Form.ofText ofDocument (Json.readText text)

end TextMatch

namespace Request

/-- A request with its metadata in some order. -/
def written (r : Request) (metadata : List (String × Json)) : Json :=
  .object [("principal", .string r.principal), ("requester", .ofOption .string r.requester),
    ("issuer", .ofOption .string r.issuer), ("metadata", .object metadata)]

def toText (r : Request) (metadata : List (String × Json)) : String := (r.written metadata).toText

def ofText (text : String) : Except FormError Request := Form.ofText ofDocument (Json.readText text)

end Request

end AttributeRelease
