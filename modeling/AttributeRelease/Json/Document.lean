import AttributeRelease.Json.Basic

/-!
JSON texts as they are read: a tree that may stop at a fault. Whoever reads such a tree in order
meets either the first place where the text is no JSON or, if it comes first, the first place where
the value has not the shape that is wanted. A part nobody asks for is only skipped, so a number out
of range or an unpaired surrogate harms nobody who does not read it.
-/

namespace AttributeRelease.Json

/-- Why a text is no JSON: it breaks the grammar, or it ends too early. -/
inductive Fault where
  | malformed
  | ended
  deriving DecidableEq, Repr

/-- How an array or an object ends: at its bracket, or at a fault, which may follow a comma. -/
inductive Ending where
  | closed
  | broken (afterComma : Bool) (fault : Fault)
  deriving DecidableEq, Repr

/-- What stands where an object has a key. -/
inductive Key where
  | name (s : String)
  /-- A string that stands for no key. -/
  | unreadable (fault : Fault)
  /-- No string. Whoever reads a value there meets a fault or some other kind of value. -/
  | stray (fault : Option Fault)
  deriving DecidableEq, Repr

/-- The name that a key gives. -/
def Key.read : Key → Except Fault String
  | .name s => .ok s
  | .unreadable fault => .error fault
  | .stray _ => .error .malformed

/-- A value as far as its text could be read. -/
inductive Document where
  | null
  | bool (b : Bool)
  | number (n : Number)
  | string (s : String)
  /-- A string or number that stands for no value. -/
  | unreadable (fault : Fault)
  | array (items : List Document) (ending : Ending)
  | object (members : List (Key × Document)) (ending : Ending)
  /-- A word or number that breaks off, or something else that no value begins with. -/
  | broken (fault : Fault)
  /-- The text ends before the value. -/
  | missing
  deriving Inhabited

/-- A text as a document, with whether anything but blanks follows the value. -/
structure Text where
  document : Document
  trailing : Bool

/-- Passes if an array or object ends at its bracket. -/
def Ending.check : Ending → Except Fault Unit
  | .closed => .ok ()
  | .broken _ fault => .error fault

def maxDepth : Nat := 127

namespace Document

mutual

/-- A value as a document without faults. -/
def ofJson : Json → Document
  | .null => .null
  | .bool b => .bool b
  | .number n => .number n
  | .string s => .string s
  | .array items => .array (ofItems items) .closed
  | .object members => .object (ofMembers members) .closed

def ofItems : List Json → List Document
  | [] => []
  | j :: rest => ofJson j :: ofItems rest

def ofMembers : List (String × Json) → List (Key × Document)
  | [] => []
  | (k, j) :: rest => (.name k, ofJson j) :: ofMembers rest

end

mutual

/-- The whole value of a document, or the first fault met when reading it at most `depth` deep. -/
def toJson (depth : Nat) : Document → Except Fault Json
  | .null => .ok .null
  | .bool b => .ok (.bool b)
  | .number n => .ok (.number n)
  | .string s => .ok (.string s)
  | .unreadable fault | .broken fault => .error fault
  | .missing => .error .ended
  | .array items ending =>
    match depth with
    | 0 => .error .malformed
    | depth + 1 => do
      let items ← toItems depth items
      ending.check
      return .array items
  | .object members ending =>
    match depth with
    | 0 => .error .malformed
    | depth + 1 => do
      let members ← toMembers depth members
      ending.check
      return Json.ofMembers members

def toItems (depth : Nat) : List Document → Except Fault (List Json)
  | [] => .ok []
  | d :: rest => do
    let j ← toJson depth d
    let js ← toItems depth rest
    return j :: js

/-- The members of an object, in the order of the text. -/
def toMembers (depth : Nat) : List (Key × Document) → Except Fault (List (String × Json))
  | [] => .ok []
  | (k, d) :: rest => do
    let k ← k.read
    let j ← toJson depth d
    let js ← toMembers depth rest
    return (k, j) :: js

end

mutual

/-- Passes over a value inside another one, whose ending tells where the text breaks off. -/
def skip : Document → Except Fault Unit
  | .array items ending => do
    skipItems items
    ending.check
  | .object members ending => do
    skipMembers members
    ending.check
  | _ => .ok ()

def skipItems : List Document → Except Fault Unit
  | [] => .ok ()
  | d :: rest => do
    skip d
    skipItems rest

def skipMembers : List (Key × Document) → Except Fault Unit
  | [] => .ok ()
  | (_, d) :: rest => do
    skip d
    skipMembers rest

end

end Document

end AttributeRelease.Json
