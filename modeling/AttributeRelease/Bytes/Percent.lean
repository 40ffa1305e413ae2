import AttributeRelease.Bytes.Hex

/-!
Percent signs in addresses: a percent sign before two hexadecimal digits stands for the byte they give.
-/

namespace AttributeRelease.Bytes

def hexPair? (high low : UInt8) : Option UInt8 := do
  let h ← hexValue? (Char.ofNat high.toNat)
  let l ← hexValue? (Char.ofNat low.toNat)
  return UInt8.ofNat (h * 16 + l)

/-- Puts bytes in the places of percent signs; a percent sign without two digits stands for itself. -/
def decodePercent : List UInt8 → List UInt8
  | [] => []
  | b :: rest =>
    if b ≠ 37 then b :: decodePercent rest
    else
      match rest with
      | high :: low :: rest =>
        match hexPair? high low with
        | some c => c :: decodePercent rest
        | none => b :: decodePercent (high :: low :: rest)
      | rest => b :: decodePercent rest
termination_by bytes => bytes.length

/-- The text of bytes, unless they are no UTF-8. -/
def toText? (bytes : List UInt8) : Option String := String.fromUTF8? ⟨bytes.toArray⟩

end AttributeRelease.Bytes
