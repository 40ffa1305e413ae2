/-!
Hexadecimal text of bytes, two lower-case digits a byte.
-/

namespace AttributeRelease.Bytes

def hexLetter (n : Nat) : Char := if n < 10 then Char.ofNat (48 + n) else Char.ofNat (87 + n)

def hexLetters : List UInt8 → List Char
  | [] => []
  | b :: rest => hexLetter (b.toNat / 16) :: hexLetter (b.toNat % 16) :: hexLetters rest

def toHex (bytes : List UInt8) : String := String.ofList (hexLetters bytes)

def hexValue? (c : Char) : Option Nat :=
  if '0' ≤ c ∧ c ≤ '9' then some (c.toNat - 48)
  else if 'a' ≤ c ∧ c ≤ 'f' then some (c.toNat - 87)
  else if 'A' ≤ c ∧ c ≤ 'F' then some (c.toNat - 55)
  else none

def ofHexLetters? : List Char → Option (List UInt8)
  | [] => some []
  | a :: b :: rest => do
    let a ← hexValue? a
    let b ← hexValue? b
    let bytes ← ofHexLetters? rest
    return UInt8.ofNat (a * 16 + b) :: bytes
  | [_] => none

def ofHex? (text : String) : Option (List UInt8) := ofHexLetters? text.toList

end AttributeRelease.Bytes
