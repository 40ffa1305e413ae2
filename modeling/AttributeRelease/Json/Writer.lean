import AttributeRelease.Double
import AttributeRelease.Json.Basic

/-!
Writing JSON text without blanks. Strings are written with the short escapes where they exist, other
control characters as `\u00xx`, and everything else as it is. Doubles are written exactly, as an
integer times a power of ten.
-/

namespace AttributeRelease.Json

namespace Writer

def hexDigit (n : Nat) : Char := if n < 10 then Char.ofNat (48 + n) else Char.ofNat (87 + n)

def escape (c : Char) : List Char :=
  if c = '"' then ['\\', '"']
  else if c = '\\' then ['\\', '\\']
  else if c = '\x08' then ['\\', 'b']
  else if c = '\x0c' then ['\\', 'f']
  else if c = '\n' then ['\\', 'n']
  else if c = '\r' then ['\\', 'r']
  else if c = '\t' then ['\\', 't']
  else if c.toNat < 0x20 then
    ['\\', 'u', '0', '0', hexDigit (c.toNat / 16), hexDigit (c.toNat % 16)]
  else [c]

def string (s : String) : List Char := '"' :: s.toList.flatMap escape ++ ['"']

def natural (n : Nat) : List Char := Nat.toDigits 10 n

/-- A finite double as an exact decimal. -/
def real (bits : UInt64) : List Char :=
  let m := Double.magnitude bits
  (if Double.isNegative bits then ['-'] else []) ++
    if Double.unitWeight ≤ m.weight then natural (m.units <<< (m.weight - Double.unitWeight)) ++ ['.', '0']
    else
      let places := Double.unitWeight - m.weight
      natural (m.units * Nat.pow 5 places) ++ ['e', '-'] ++ natural places

def number : Number → List Char
  | .natural n => natural n
  | .negative n => '-' :: natural n
  | .real bits => real bits

mutual

def value : Json → List Char
  | .null => ['n', 'u', 'l', 'l']
  | .bool true => ['t', 'r', 'u', 'e']
  | .bool false => ['f', 'a', 'l', 's', 'e']
  | .number n => number n
  | .string s => string s
  | .array [] => ['[', ']']
  | .array (j :: rest) => '[' :: value j ++ items rest
  | .object [] => ['\x7b', '\x7d']
  | .object ((k, j) :: rest) => '\x7b' :: string k ++ ':' :: value j ++ members rest

/-- The items of an array after the first, with the closing bracket. -/
def items : List Json → List Char
  | [] => [']']
  | j :: rest => ',' :: value j ++ items rest

/-- The members of an object after the first, with the closing brace. -/
def members : List (String × Json) → List Char
  | [] => ['\x7d']
  | (k, j) :: rest => ',' :: string k ++ ':' :: value j ++ members rest

end

end Writer

def toText (j : Json) : String := String.ofList (Writer.value j)

end AttributeRelease.Json
