import AttributeRelease.Unicode.CharSet

/-!
Ranges of characters as ranges of bytes. The UTF-8 forms of a range of characters fall into sequences of ranges
of bytes, each of which allows every combination of its bytes.
-/

namespace AttributeRelease.Regex

open Unicode (CharRange)

/-- The bytes from `first` to `last`. -/
structure ByteRange where
  first : Nat
  last : Nat
  deriving DecidableEq, Repr

namespace ByteRange

def encode (c : Nat) : List Nat :=
  if c < 0x80 then [c]
  else if c < 0x800 then [0xC0 + c / 64, 0x80 + c % 64]
  else if c < 0x10000 then [0xE0 + c / 4096, 0x80 + c / 64 % 64, 0x80 + c % 64]
  else [0xF0 + c / 262144, 0x80 + c / 4096 % 64, 0x80 + c / 64 % 64, 0x80 + c % 64]

/--
The last character of the first piece of a range that is no single sequence: pieces do not cross the surrogates
or the limits between lengths, and a byte varies only if all bytes after it take every value.
-/
def cut? (r : CharRange) : Option Nat :=
  if r.first < 0xE000 ∧ 0xD7FF < r.last then some 0xD7FF
  else
    match [0x7F, 0x7FF, 0xFFFF].find? fun limit => r.first ≤ limit && limit < r.last with
    | some limit => some limit
    | none =>
      if r.last < 0x80 then none
      else [64, 4096, 262144].findSome? fun block =>
        if r.first / block = r.last / block then none
        else if r.first % block ≠ 0 then some (r.first / block * block + block - 1)
        else if r.last % block ≠ block - 1 then some (r.last / block * block - 1)
        else none

/-- The pieces of a range in ascending order. No range is cut more often than `fuel` allows. -/
def pieces (fuel : Nat) (r : CharRange) : List CharRange :=
  match fuel, cut? r with
  | fuel + 1, some last => pieces fuel ⟨r.first, last⟩ ++ pieces fuel ⟨CharRange.next last, r.last⟩
  | _, _ => [r]

/-- How deep the cuts of a range may nest. -/
def maxCuts : Nat := 12

def sequences (r : CharRange) : List (List ByteRange) :=
  (pieces maxCuts r).map fun p => (encode p.first).zipWith ByteRange.mk (encode p.last)

end ByteRange

end AttributeRelease.Regex
