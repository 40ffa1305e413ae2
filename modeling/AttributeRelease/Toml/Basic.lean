/-!
TOML values.
-/

namespace AttributeRelease

namespace Toml

/-- A day. -/
structure Date where
  year : Nat
  month : Nat
  day : Nat
  deriving DecidableEq, Repr

/-- A time of day; of the second, nine decimal places count. -/
structure Time where
  hour : Nat
  minute : Nat
  second : Nat
  nanosecond : Nat := 0
  deriving DecidableEq, Repr

/-- A day, a time of day, or both, in which case the distance from universal time may be known. -/
structure Moment where
  date : Option Date := none
  time : Option Time := none
  /-- The distance in minutes. -/
  offset : Option Int := none
  deriving DecidableEq, Repr

end Toml

/-- A TOML value. -/
inductive Toml where
  | string (s : String)
  | integer (n : Int)
  | float (f : Float)
  | boolean (b : Bool)
  | moment (m : Toml.Moment)
  | array (items : List Toml)
  /-- A table; no key comes twice. -/
  | table (entries : List (String × Toml))

end AttributeRelease
