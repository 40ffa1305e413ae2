/-!
Doubles in their parts. The magnitude of a finite double is a whole number of units, and the unit is a
power of two.
-/

namespace AttributeRelease.Double

/-- The weight of the unit that is one. -/
def unitWeight : Nat := 1075

/-- The magnitude `units * 2 ^ (weight - unitWeight)`; one that is not finite has the largest weight. -/
structure Magnitude where
  units : Nat
  weight : Nat
  deriving DecidableEq, Repr

def magnitude (bits : UInt64) : Magnitude :=
  let exponent := bits.toNat / 0x10000000000000 % 0x800
  let fraction := bits.toNat % 0x10000000000000
  if exponent = 0 then ⟨fraction, 1⟩ else ⟨fraction + 0x10000000000000, exponent⟩

/-- Whether the double with these bits has a minus sign. -/
def isNegative (bits : UInt64) : Bool := 0x8000000000000000 ≤ bits.toNat

end AttributeRelease.Double
