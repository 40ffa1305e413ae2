import AttributeRelease.Attribute.Basic
import AttributeRelease.Form.Basic
import AttributeRelease.Json.Writer

/-!
The JSON forms of values and attributes. A value is written with its kind under `type` and its
content under `value`; the content may also come first, and is then kept until the kind is known.
-/

namespace AttributeRelease

open Json (Document Ending Key)

/-- The kinds of values. -/
inductive ValueKind where
  | string
  | scoped
  | bytes
  | empty
  deriving DecidableEq, Repr

namespace ValueKind

def name : ValueKind → String
  | .string => "string"
  | .scoped => "scoped"
  | .bytes => "bytes"
  | .empty => "empty"

def ofName? (name : String) : Option ValueKind :=
  [.string, .scoped, .bytes, .empty].find? (·.name = name)

def ofKey : Key → Except FormError ValueKind
  | .stray none => .error .shape
  | .stray (some fault) => .error (.text fault)
  | key => do Form.required (ofName? (← Form.lift key.read))

/-- A kind as it stands under `type`: its name, or an object with the name as only key of a `null`. -/
def ofDocument : Document → Except FormError ValueKind
  | .string s => Form.required (ofName? s)
  | .object ((key, d) :: rest) ending => do
    let kind ← ofKey key
    match d with
    | .null =>
      match rest, ending with
      | [], .closed => return kind
      | [], .broken false fault => .error (.text fault)
      | _, _ => .error (.text .malformed)
    | d => Form.mismatch d
  | .object [] (.broken _ fault) | .unreadable fault => .error (.text fault)
  | .missing => .error (.text .ended)
  | _ => .error (.text .malformed)

end ValueKind

namespace Value

def kind : Value → ValueKind
  | .string _ => .string
  | .scoped _ _ => .scoped
  | .bytes _ => .bytes
  | .empty => .empty

/-- The two parts of a scoped value while they are read. -/
structure ScopedParts where
  value : Option String := none
  scope : Option String := none

def scopedFields : List (Form.Field ScopedParts) :=
  [⟨"value", (·.value.isSome), fun d s => return { s with value := some (← Form.string d) }, false⟩,
   ⟨"scope", (·.scope.isSome), fun d s => return { s with scope := some (← Form.string d) }, false⟩]

/-- The content of a value of known kind. A scoped value is always an object. -/
def ofContent : ValueKind → Document → Except FormError Value
  | .string, d => return .string (← Form.string d)
  | .scoped, .object ms ending => do
    let parts ← Form.record scopedFields {} (.object ms ending)
    return .scoped (← Form.required parts.value) (← Form.required parts.scope)
  | .scoped, d => Form.mismatch d
  | .bytes, d => return .bytes ((← Form.list (Form.natural 255) d).map UInt8.ofNat)
  | .empty, .null => .ok .empty
  | .empty, d => Form.mismatch d

/-- A value whose content is missing. -/
def ofMissingContent : ValueKind → Except FormError Value
  | .empty => .ok .empty
  | _ => .error .shape

/-- Passes over the members after kind and content, which must not repeat either. -/
def passRest (ending : Ending) : List (Key × Document) → Except FormError Unit
  | [] => Form.lift ending.check
  | (key, d) :: rest => do
    let key ← Form.lift key.read
    if key = "type" ∨ key = "value" then .error .shape
    else
      Form.lift d.skip
      passRest ending rest

def afterKind (kind : ValueKind) (ending : Ending) :
    List (Key × Document) → Except FormError Value
  | [] => do
    Form.lift ending.check
    ofMissingContent kind
  | (key, d) :: rest => do
    let key ← Form.lift key.read
    if key = "type" then .error .shape
    else if key = "value" then
      let v ← ofContent kind d
      passRest ending rest
      return v
    else
      Form.lift d.skip
      afterKind kind ending rest

/-- Reads the members after the content, which is taken apart once the kind is known. -/
def afterContent (content : Document) (ending : Ending) :
    List (Key × Document) → Except FormError Value
  | [] => do
    Form.lift ending.check
    .error .shape
  | (key, d) :: rest => do
    let key ← Form.lift key.read
    if key = "value" then .error .shape
    else if key = "type" then
      let kind ← ValueKind.ofDocument d
      let v ← (ofContent kind content).mapError fun _ => .shape
      passRest ending rest
      return v
    else
      Form.lift d.skip
      afterContent content ending rest

/-- Reads the members of a value. A content before the kind may nest `room` levels deep. -/
def ofMembers (room : Nat) (ending : Ending) : List (Key × Document) → Except FormError Value
  | [] => do
    Form.lift ending.check
    .error .shape
  | (key, d) :: rest => do
    let key ← Form.lift key.read
    if key = "type" then
      let kind ← ValueKind.ofDocument d
      afterKind kind ending rest
    else if key = "value" then
      let _ ← Form.lift (d.toJson room)
      afterContent d ending rest
    else
      Form.lift d.skip
      ofMembers room ending rest

/-- The kind at the head of an array, where only its name will do. -/
def ofHead (d : Document) : Except FormError ValueKind := do
  Form.required (ValueKind.ofName? (← Form.string d))

/-- A value under so many brackets: an object, or an array of kind and content. -/
def ofNested (levels : Nat) : Document → Except FormError Value
  | .object ms ending => ofMembers (Json.maxDepth - 1 - levels) ending ms
  | .array [] ending => do
    Form.lift ending.check
    .error .shape
  | .array [kind] ending => do
    let _ ← ofHead kind
    Form.lift ending.check
    .error .shape
  | .array (kind :: content :: rest) ending => do
    let kind ← ofHead kind
    let v ← ofContent kind content
    match rest, ending with
    | [], .closed => return v
    | [], .broken false fault => .error (.text fault)
    | _, _ => .error (.text .malformed)
  | d => Form.mismatch d

/-- A value on its own. -/
def ofDocument : Document → Except FormError Value := ofNested 0

def toJson (v : Value) : Json :=
  match v with
  | .string s => .object [("type", .string v.kind.name), ("value", .string s)]
  | .scoped value scope =>
    .object [("type", .string v.kind.name),
      ("value", .object [("scope", .string scope), ("value", .string value)])]
  | .bytes data =>
    .object [("type", .string v.kind.name), ("value", .array (data.map fun b => .ofNat b.toNat))]
  | .empty => .object [("type", .string v.kind.name)]

end Value

namespace Attribute

/-- An attribute while it is read. -/
structure Parts where
  id : Option String := none
  values : Option (List Value) := none

def fields : List (Form.Field Parts) :=
  [⟨"id", (·.id.isSome), fun d s => return { s with id := some (← Form.string d) }, false⟩,
   ⟨"values", (·.values.isSome),
    fun d s => return { s with values := some (← Form.list (Value.ofNested 2) d) }, true⟩]

/-- An attribute; without `values` it has none, and repeated values count once. -/
def ofDocument (d : Document) : Except FormError Attribute := do
  let parts ← Form.record fields {} d
  return ofValues (← Form.required parts.id) (parts.values.getD [])

def toJson (a : Attribute) : Json :=
  .object [("id", .string a.id), ("values", .array (a.values.map Value.toJson))]

end Attribute

def AttributeMap.toJson (m : AttributeMap) : Json := .ofMembers (m.entries.map fun e => (e.1, e.2.toJson))

end AttributeRelease
