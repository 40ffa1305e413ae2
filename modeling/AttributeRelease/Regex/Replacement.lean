import AttributeRelease.Regex.Basic

/-!
Replacements: texts into which the groups of a match are put. A group is written `$1`, `$name` or
`${name}`, and `$$` writes the sign itself; a group that does not exist or took no part is empty.
-/

namespace AttributeRelease.Regex

/-- A part of a replacement. -/
inductive Insert where
  | text (c : Char)
  | group (index : Nat)
  | named (name : String)
  deriving DecidableEq, Repr

namespace Insert

/-- A character of a name that is written without braces. -/
def isNameChar (c : Char) : Bool := c.isAlphanum || c = '_'

/-- The largest number of a group that can be named. -/
def maxNumber : Nat := 0xFFFFFFFFFFFFFFFF

/-- The number written by a text, which may start with a plus sign. -/
def number? (cs : List Char) : Option Nat :=
  let digits := match cs with
    | '+' :: digits => digits
    | digits => digits
  if digits.isEmpty || !digits.all Char.isDigit then none
  else
    let n := digits.foldl (fun n c => n * 10 + (c.toNat - 48)) 0
    if n ≤ maxNumber then some n else none

def ofReference (cs : List Char) : Insert :=
  match number? cs with
  | some n => .group n
  | none => .named (String.ofList cs)

/-- The reference that follows a dollar sign, and how many characters it takes. -/
def reference? (cs : List Char) : Option (Insert × Nat) :=
  match cs with
  | '\x7b' :: cs =>
    let name := cs.takeWhile (· ≠ '\x7d')
    if name.length < cs.length then some (ofReference name, name.length + 2) else none
  | cs =>
    let name := cs.takeWhile isNameChar
    if name.isEmpty then none else some (ofReference name, name.length)

/-- The parts of a replacement; the first `skipped` characters belong to a reference that was read. -/
def read (skipped : Nat) : List Char → List Insert
  | [] => []
  | c :: rest =>
    match skipped with
    | n + 1 => read n rest
    | 0 =>
      if c = '$' then
        if rest.head? = some '$' then .text '$' :: read 1 rest
        else
          match reference? rest with
          | some (insert, length) => insert :: read length rest
          | none => .text '$' :: read 0 rest
      else .text c :: read 0 rest

/-- What a part comes to for a match. -/
def expand (c : Captures) : Insert → String
  | .text ch => String.singleton ch
  | .group i => (c.group? i).getD ""
  | .named name => (c.named? name).getD ""

end Insert

/-- A replacement with the groups of a match put in. -/
def Captures.expand (c : Captures) (replacement : String) : String :=
  String.join ((Insert.read 0 replacement.toList).map (Insert.expand c))

end AttributeRelease.Regex
