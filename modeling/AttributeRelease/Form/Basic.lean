import AttributeRelease.Json.Document

/-!
Reading records from JSON. A record is an object with the fields by name, in any order and among
others that are passed over, or an array with the fields in their own order. A reader goes through
the text once, and the first thing wrong is the error: a fault of the text, or a shape that does not
fit.
-/

namespace AttributeRelease

/-- Why a JSON text is no value of some type. -/
inductive FormError where
  | text (fault : Json.Fault)
  | shape
  /-- Two flags for case that contradict each other. -/
  | conflictingFlags (caseSensitive ignoreCase : Bool) (value : String)
  deriving DecidableEq, Repr

def FormError.message : FormError → String
  | .text .malformed => "malformed text"
  | .text .ended => "unexpected end of text"
  | .shape => "unexpected shape"
  | .conflictingFlags caseSensitive ignoreCase value =>
    s!"conflicting case_sensitive={caseSensitive} and ignore_case={ignoreCase} for '{value}'"

namespace Form

open Json (Document Ending Fault)

/-- A fault of the text as an error. -/
def lift {α : Type} (x : Except Fault α) : Except FormError α := x.mapError .text

/-- The error for a value of another shape, which is a fault if the value cannot be read. -/
def mismatch {α : Type} : Document → Except FormError α
  | .broken fault | .unreadable fault => .error (.text fault)
  | .missing => .error (.text .ended)
  | _ => .error .shape

def string : Document → Except FormError String
  | .string s => .ok s
  | d => mismatch d

def bool : Document → Except FormError Bool
  | .bool b => .ok b
  | d => mismatch d

/-- A natural number up to a limit. -/
def natural (limit : Nat) : Document → Except FormError Nat
  | .number (.natural n) => if n ≤ limit then .ok n else .error .shape
  | d => mismatch d

/-- A value that may be `null`. -/
def nullable {α : Type} (read : Document → Except FormError α) : Document → Except FormError (Option α)
  | .null => .ok none
  | d => some <$> read d

/-- The items of an array, read in order. -/
def items {α : Type} (read : Document → Except FormError α) : List Document → Except FormError (List α)
  | [] => .ok []
  | d :: rest => do
    let a ← read d
    let as ← items read rest
    return a :: as

def list {α : Type} (read : Document → Except FormError α) : Document → Except FormError (List α)
  | .array ds ending => do
    let as ← items read ds
    lift ending.check
    return as
  | d => mismatch d

/-- One field of a record that is being collected in `σ`. -/
structure Field (σ : Type) where
  name : String
  /-- Whether the field was met before; it may come only once. -/
  isSet : σ → Bool
  read : Document → σ → Except FormError σ
  /-- Whether an array may end before this field. -/
  optional : Bool

def members {σ : Type} (fields : List (Field σ)) :
    List (Json.Key × Document) → σ → Except FormError σ
  | [], s => .ok s
  | (key, d) :: rest, s => do
    let key ← lift key.read
    match fields.find? (·.name = key) with
    | none =>
      lift d.skip
      members fields rest s
    | some f =>
      if f.isSet s then .error .shape
      else
        let s ← f.read d s
        members fields rest s

/-- Reads the fields one by one from the items of an array. -/
def positions {σ : Type} : List (Field σ) → List Document → Ending → σ → Except FormError σ
  | [], [], .closed, s => .ok s
  | [], [], .broken true _, _ => .error (.text .malformed)
  | [], [], .broken false fault, _ => .error (.text fault)
  | [], _ :: _, _, _ => .error (.text .malformed)
  | _ :: _, [], .broken _ fault, _ => .error (.text fault)
  | f :: fs, [], .closed, s => if f.optional then positions fs [] .closed s else .error .shape
  | f :: fs, d :: ds, ending, s => do
    let s ← f.read d s
    positions fs ds ending s

/-- Reads a record, starting from the one in which no field is set. -/
def record {σ : Type} (fields : List (Field σ)) (start : σ) : Document → Except FormError σ
  | .object ms ending => do
    let s ← members fields ms start
    lift ending.check
    return s
  | .array ds ending => positions fields ds ending start
  | d => mismatch d

/-- The value of a field that must not be missing. -/
def required {α : Type} : Option α → Except FormError α
  | some a => .ok a
  | none => .error .shape

/-- Reads a whole text: a value with nothing but blanks after it. -/
def ofText {α : Type} (read : Document → Except FormError α) (text : Json.Text) : Except FormError α := do
  let a ← read text.document
  if text.trailing then .error (.text .malformed) else return a

end Form

end AttributeRelease
