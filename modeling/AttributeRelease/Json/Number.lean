/-!
JSON numbers. A number written without fraction and exponent is an integer as long as it fits 64
bits; every other number is a double. Doubles are kept as bit patterns with a single zero, so that
equality of numbers is equality of values: the integer `1` and the double `1.0` differ, while `0.0`
and `-0.0` are the same double.
-/

namespace AttributeRelease.Json

/-- A JSON number: `natural n` is `n`, `negative n` is `-n`, `real bits` is the double with these bits. -/
inductive Number where
  | natural (n : Nat)
  | negative (n : Nat)
  | real (bits : UInt64)
  deriving DecidableEq, Repr

namespace Number

/-- The largest integer a number without sign may hold. -/
def maxNatural : Nat := 0xFFFFFFFFFFFFFFFF

/-- The largest magnitude of a negative integer. -/
def maxNegative : Nat := 0x8000000000000000

/-- The double as a number; negative zero is stored as zero. -/
def ofFloat (f : Float) : Number :=
  if f == 0.0 then .real 0 else .real f.toBits

/-- The nearest double of a number. -/
def toFloat : Number → Float
  | .natural n => n.toUInt64.toFloat
  | .negative n => -n.toUInt64.toFloat
  | .real bits => Float.ofBits bits

/-- `10 ^ n` as a double, for the exponents of finite doubles. -/
def powerOfTen (n : Nat) : Float := Float.ofScientific 1 false n

/--
`significand * 10 ^ exponent` in double arithmetic: one multiplication or division by a power of
ten, after as many divisions by `1e308` as a very small exponent needs. `none` if it overflows.
-/
def scale (significand : Nat) (exponent : Int) : Option Float :=
  let f := significand.toUInt64.toFloat
  if 0 ≤ exponent then
    if exponent ≤ 308 then
      let r := f * powerOfTen exponent.toNat
      if r.isInf then none else some r
    else if f == 0.0 then some f else none
  else some (shrink f (-exponent).toNat 4)
where
  /-- Divides by `10 ^ exponent` in steps; four steps of `1e308` take every significand to zero. -/
  shrink (f : Float) (exponent : Nat) : Nat → Float
    | 0 => 0.0
    | steps + 1 =>
      if exponent ≤ 308 then f / powerOfTen exponent
      else shrink (f / powerOfTen 308) (exponent - 308) steps

/-- The number `±significand * 10 ^ exponent` as a double, or `none` if it is out of range. -/
def ofParts (positive : Bool) (significand : Nat) (exponent : Int) : Option Number :=
  (scale significand exponent).map fun f => ofFloat (if positive then f else -f)

/-- An integer literal: exact if it fits, else the double given by its leading digits. -/
def ofInteger (positive : Bool) (n : Nat) : Option Number :=
  if positive then some (.natural n)
  else if n = 0 then some (ofFloat 0.0)
  else if n ≤ maxNegative then some (.negative n)
  else ofParts false n 0

end Number

end AttributeRelease.Json
