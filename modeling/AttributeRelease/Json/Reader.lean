import AttributeRelease.Json.Document

/-!
Reading JSON text. `readText` reads one value and says what follows it. Every part of the reader
takes the characters still to be read and gives back those left over, or the fault that stopped it.
-/

namespace AttributeRelease.Json

/-- A part of a text that was read, with the characters left over or the fault that ended the reading. -/
structure Read (α : Type) where
  value : α
  rest : Except Fault (List Char)

namespace Reader

def isBlank (c : Char) : Bool := c = ' ' || c = '\n' || c = '\t' || c = '\r'

/-- The characters from the next token on. -/
def dropBlanks (cs : List Char) : List Char := cs.dropWhile isBlank

def hexDigit? (c : Char) : Option Nat :=
  if '0' ≤ c ∧ c ≤ '9' then some (c.toNat - '0'.toNat)
  else if 'a' ≤ c ∧ c ≤ 'f' then some (c.toNat - 'a'.toNat + 10)
  else if 'A' ≤ c ∧ c ≤ 'F' then some (c.toNat - 'A'.toNat + 10)
  else none

/-- The code unit written by four hexadecimal digits. -/
def codeUnit? (a b c d : Char) : Option Nat := do
  let a ← hexDigit? a
  let b ← hexDigit? b
  let c ← hexDigit? c
  let d ← hexDigit? d
  return ((a * 16 + b) * 16 + c) * 16 + d

/-- A code unit that opens a surrogate pair. -/
def isLeading (n : Nat) : Bool := 0xD800 ≤ n && n ≤ 0xDBFF

/-- A code unit that closes a surrogate pair. -/
def isTrailing (n : Nat) : Bool := 0xDC00 ≤ n && n ≤ 0xDFFF

def ofSurrogates (leading trailing : Nat) : Char :=
  Char.ofNat (0x10000 + (leading - 0xD800) * 0x400 + (trailing - 0xDC00))

def escaped? : Char → Option Char
  | '"' => some '"'
  | '\\' => some '\\'
  | '/' => some '/'
  | 'b' => some '\x08'
  | 'f' => some '\x0c'
  | 'n' => some '\n'
  | 'r' => some '\r'
  | 't' => some '\t'
  | _ => none

/-- How a text fails that has less than four hexadecimal digits after `\u`. -/
def shortEscape (cs : List Char) : Fault :=
  if (String.ofList cs).utf8ByteSize < 4 then .ended else .malformed

def ofString : Except Fault String → Key
  | .ok s => .name s
  | .error fault => .unreadable fault

/-- Something else in the place of a key. -/
def ofStray : Document → Key
  | .broken fault | .unreadable fault => .stray (some fault)
  | .missing => .stray (some .ended)
  | _ => .stray none

/--
The characters of a string up to its closing quote. `read` holds what was read so far, last
character first, or the first fault in it; a string with a fault inside is still read to its end.
-/
def stringBody : List Char → Except Fault (List Char) → Read (Except Fault String)
  | [], read => ⟨read.bind fun _ => .error .ended, .error .ended⟩
  | '"' :: rest, read => ⟨read.map fun cs => String.ofList cs.reverse, .ok rest⟩
  | '\\' :: 'u' :: a :: b :: c :: d :: rest, read =>
    match codeUnit? a b c d with
    | none => ⟨read.bind fun _ => .error .malformed, .error .malformed⟩
    | some n =>
      if isTrailing n then stringBody rest (read.bind fun _ => .error .malformed)
      else if isLeading n then
        match rest with
        | '\\' :: 'u' :: a :: b :: c :: d :: rest =>
          match codeUnit? a b c d with
          | none => ⟨read.bind fun _ => .error .malformed, .error .malformed⟩
          | some m =>
            if isTrailing m then stringBody rest (read.map (ofSurrogates n m :: ·))
            else stringBody rest (read.bind fun _ => .error .malformed)
        | rest =>
          let fault := match rest with
            | '\\' :: 'u' :: rest => shortEscape rest
            | [] | ['\\'] => .ended
            | _ => .malformed
          stringBody rest (read.bind fun _ => .error fault)
      else stringBody rest (read.map (Char.ofNat n :: ·))
  | '\\' :: 'u' :: rest, read =>
    let fault := shortEscape rest
    ⟨read.bind fun _ => .error fault, .error fault⟩
  | ['\\'], read => ⟨read.bind fun _ => .error .ended, .error .ended⟩
  | '\\' :: c :: rest, read =>
    match escaped? c with
    | some e => stringBody rest (read.map (e :: ·))
    | none => ⟨read.bind fun _ => .error .malformed, .error .malformed⟩
  | c :: rest, read =>
    if c.toNat < 0x20 then ⟨read.bind fun _ => .error .malformed, .error .malformed⟩
    else stringBody rest (read.map (c :: ·))

def digit? (c : Char) : Option Nat :=
  if '0' ≤ c ∧ c ≤ '9' then some (c.toNat - '0'.toNat) else none

def isDigit (c : Char) : Bool := (digit? c).isSome

/--
Appends digits to a significand of 64 bits. Digits that no longer fit are left out; the second part
counts those taken, the third those left out.
-/
def takeDigits : List Char → (significand taken : Nat) → Nat × Nat × Nat
  | [], significand, taken => (significand, taken, 0)
  | c :: rest, significand, taken =>
    let next := significand * 10 + (digit? c).getD 0
    if next ≤ Number.maxNatural then takeDigits rest next (taken + 1)
    else (significand, taken, rest.length + 1)

def ofNumber? : Option Number → Document
  | some n => .number n
  | none => .unreadable .malformed

/-- How a text fails where something else must follow. -/
def faultAt : List Char → Fault
  | [] => .ended
  | _ => .malformed

/-- A number without a digit that it needs. Whoever passes over it takes it for malformed. -/
def missingDigit (rest : List Char) : Read Document := ⟨.broken (faultAt rest), .error .malformed⟩

/-- The largest exponent that is taken for its value; larger ones are all alike. -/
def maxExponent : Nat := 0x7FFFFFFF

/-- The exponent of a number, from behind its `e`, applied to a significand. -/
def exponentPart (positive : Bool) (significand : Nat) (exponent : Int) (cs : List Char) : Read Document :=
  let (up, cs) := match cs with
    | '+' :: rest => (true, rest)
    | '-' :: rest => (false, rest)
    | rest => (true, rest)
  let digits := cs.takeWhile isDigit
  let rest := cs.dropWhile isDigit
  if digits.isEmpty then missingDigit rest
  else
    let e := digits.foldl (fun n c => n * 10 + (digit? c).getD 0) 0
    let n :=
      if e ≤ maxExponent then Number.ofParts positive significand (if up then exponent + e else exponent - e)
      else if significand = 0 ∨ ¬ up then some (Number.ofFloat 0.0)
      else none
    ⟨ofNumber? n, .ok rest⟩

def numberBody (positive : Bool) (cs : List Char) : Read Document :=
  let whole := cs.takeWhile isDigit
  let rest := cs.dropWhile isDigit
  match whole with
  | [] => missingDigit rest
  | '0' :: _ :: _ => ⟨.broken .malformed, .error .malformed⟩
  | _ =>
    let (significand, _, dropped) := takeDigits whole 0 0
    match rest with
    | '.' :: rest =>
      let fraction := rest.takeWhile isDigit
      let rest := rest.dropWhile isDigit
      if fraction.isEmpty then missingDigit rest
      else
        let (significand, taken, _) :=
          if dropped = 0 then takeDigits fraction significand 0 else (significand, 0, 0)
        let exponent : Int := (dropped : Int) - taken
        match rest with
        | 'e' :: rest | 'E' :: rest => exponentPart positive significand exponent rest
        | rest => ⟨ofNumber? (Number.ofParts positive significand exponent), .ok rest⟩
    | 'e' :: rest | 'E' :: rest => exponentPart positive significand dropped rest
    | rest =>
      let n := if dropped = 0 then Number.ofInteger positive significand
        else Number.ofParts positive significand dropped
      ⟨ofNumber? n, .ok rest⟩

/-- Reads the rest of a word such as `null`. -/
def word (value : Document) : (expected cs : List Char) → Read Document
  | [], cs => ⟨value, .ok cs⟩
  | _ :: _, [] => ⟨.broken .ended, .error .ended⟩
  | e :: es, c :: cs => if e = c then word value es cs else ⟨.broken .malformed, .error .malformed⟩

mutual

/-- A value; `fuel` bounds the characters that are looked at. -/
def value (fuel : Nat) (cs : List Char) : Read Document :=
  match fuel with
  | 0 => ⟨.missing, .error .ended⟩
  | fuel + 1 =>
    match dropBlanks cs with
    | [] => ⟨.missing, .error .ended⟩
    | 'n' :: rest => word .null ['u', 'l', 'l'] rest
    | 't' :: rest => word (.bool true) ['r', 'u', 'e'] rest
    | 'f' :: rest => word (.bool false) ['a', 'l', 's', 'e'] rest
    | '"' :: rest =>
      match stringBody rest (.ok []) with
      | ⟨.ok s, rest⟩ => ⟨.string s, rest⟩
      | ⟨.error fault, rest⟩ => ⟨.unreadable fault, rest⟩
    | '[' :: rest =>
      let read := items fuel true rest
      ⟨.array read.value.1 read.value.2, read.rest⟩
    | '\x7b' :: rest =>
      let read := members fuel true rest
      ⟨.object read.value.1 read.value.2, read.rest⟩
    | '-' :: rest => numberBody false rest
    | c :: rest =>
      if isDigit c then numberBody true (c :: rest) else ⟨.broken .malformed, .error .malformed⟩

/-- The items of an array; `first` says that no comma is due. -/
def items (fuel : Nat) (first : Bool) (cs : List Char) : Read (List Document × Ending) :=
  match fuel with
  | 0 => ⟨([], .broken false .ended), .error .ended⟩
  | fuel + 1 =>
    match dropBlanks cs with
    | [] => ⟨([], .broken false .ended), .error .ended⟩
    | ']' :: rest => ⟨([], .closed), .ok rest⟩
    | ',' :: rest =>
      if first then item fuel (',' :: rest)
      else
        match dropBlanks rest with
        | [] => ⟨([], .broken true .ended), .error .ended⟩
        | ']' :: _ => ⟨([], .broken true .malformed), .error .malformed⟩
        | rest => item fuel rest
    | rest =>
      if first then item fuel rest else ⟨([], .broken false .malformed), .error .malformed⟩

/-- One item of an array and the items after it. -/
def item (fuel : Nat) (cs : List Char) : Read (List Document × Ending) :=
  match fuel with
  | 0 => ⟨([], .broken false .ended), .error .ended⟩
  | fuel + 1 =>
    let head := value fuel cs
    match head.rest with
    | .error fault => ⟨([head.value], .broken false fault), .error fault⟩
    | .ok rest =>
      let tail := items fuel false rest
      ⟨(head.value :: tail.value.1, tail.value.2), tail.rest⟩

/-- The members of an object; `first` says that no comma is due. -/
def members (fuel : Nat) (first : Bool) (cs : List Char) : Read (List (Key × Document) × Ending) :=
  match fuel with
  | 0 => ⟨([], .broken false .ended), .error .ended⟩
  | fuel + 1 =>
    match dropBlanks cs with
    | [] => ⟨([], .broken false .ended), .error .ended⟩
    | '\x7d' :: rest => ⟨([], .closed), .ok rest⟩
    | '"' :: rest =>
      if first then member fuel rest else ⟨([], .broken false .malformed), .error .malformed⟩
    | ',' :: rest =>
      if first then ⟨([], .broken false .malformed), .error .malformed⟩
      else
        match dropBlanks rest with
        | [] => ⟨([], .broken true .ended), .error .ended⟩
        | '"' :: rest => member fuel rest
        | _ => ⟨([], .broken true .malformed), .error .malformed⟩
    | rest =>
      let stray := if first then [(ofStray (value fuel rest).value, .null)] else []
      ⟨(stray, .broken false .malformed), .error .malformed⟩

/-- One member of an object, from behind the opening quote of its key, and the members after it. -/
def member (fuel : Nat) (cs : List Char) : Read (List (Key × Document) × Ending) :=
  match fuel with
  | 0 => ⟨([], .broken false .ended), .error .ended⟩
  | fuel + 1 =>
    let key := stringBody cs (.ok [])
    match key.rest with
    | .error fault => ⟨([(ofString key.value, .missing)], .broken false fault), .error fault⟩
    | .ok rest =>
      match dropBlanks rest with
      | ':' :: rest =>
        let head := value fuel rest
        match head.rest with
        | .error fault => ⟨([(ofString key.value, head.value)], .broken false fault), .error fault⟩
        | .ok rest =>
          let tail := members fuel false rest
          ⟨((ofString key.value, head.value) :: tail.value.1, tail.value.2), tail.rest⟩
      | rest =>
        let value := if rest.isEmpty then Document.missing else .broken .malformed
        ⟨([(ofString key.value, value)], .broken false (faultAt rest)), .error (faultAt rest)⟩

end

end Reader

/-- Reads a text. Of every three steps of the reader one consumes a character, which bounds their number. -/
def readText (text : String) : Text :=
  let cs := text.toList
  let read := Reader.value (3 * cs.length + 3) cs
  match read.rest with
  | .ok rest => ⟨read.value, !(Reader.dropBlanks rest).isEmpty⟩
  | .error _ => ⟨read.value, false⟩

/-- The value written by a text, if it is well formed throughout. -/
def ofText? (text : String) : Option Json :=
  let read := readText text
  match read.document.toJson maxDepth, read.trailing with
  | .ok j, false => some j
  | _, _ => none

end AttributeRelease.Json
