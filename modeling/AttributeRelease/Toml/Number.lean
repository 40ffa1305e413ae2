import AttributeRelease.Toml.Basic
import AttributeRelease.Toml.Text

/-!
Numbers and moments of time in TOML documents. Integers have 64 bits. Digits may be parted by single
underscores, and a decimal number does not begin with a zero that could be left out.
-/

namespace AttributeRelease.Toml

/-- Digits after the first one; an underscore stands only between two digits. -/
def moreDigits (p : Char → Bool) : List Char → List Char × List Char
  | [] => ([], [])
  | [c] => if p c then ([c], []) else ([], [c])
  | c :: d :: rest =>
    if p c then
      let r := moreDigits p (d :: rest)
      (c :: r.1, r.2)
    else if c = '_' && p d then
      let r := moreDigits p rest
      (d :: r.1, r.2)
    else ([], c :: d :: rest)

def digits? (p : Char → Bool) : Reader (List Char)
  | [] => none
  | c :: rest => if p c then some (c :: (moreDigits p rest).1, (moreDigits p rest).2) else none

def numberOf (base : Nat) (ds : List Char) : Nat :=
  ds.foldl (fun n c => n * base + (Bytes.hexValue? c).getD 0) 0

/-- Whether a number is negative, and the characters after its sign. -/
def sign : List Char → Bool × List Char
  | '-' :: rest => (true, rest)
  | '+' :: rest => (false, rest)
  | cs => (false, cs)

def wholeDigits : Reader (List Char)
  | '0' :: rest => some (['0'], rest)
  | cs => digits? Char.isDigit cs

/-- An integer within 64 bits. -/
def integerOf? (n : Int) : Option Toml :=
  if -0x8000000000000000 ≤ n ∧ n < 0x8000000000000000 then some (.integer n) else none

def based? (base : Nat) (p : Char → Bool) (cs : List Char) : Option (Toml × List Char) := do
  let (ds, rest) ← digits? p cs
  return (← integerOf? (numberOf base ds), rest)

def integer? : Reader Toml
  | '0' :: 'x' :: rest => based? 16 (fun c => (Bytes.hexValue? c).isSome) rest
  | '0' :: 'o' :: rest => based? 8 (fun c => '0' ≤ c && c ≤ '7') rest
  | '0' :: 'b' :: rest => based? 2 (fun c => c = '0' || c = '1') rest
  | cs => do
    let (ds, rest) ← wholeDigits (sign cs).2
    let n : Int := numberOf 10 ds
    return (← integerOf? (if (sign cs).1 then -n else n), rest)

/-- The double nearest to `n * 10 ^ e`, where `n` has at most so many digits. -/
def decimal (n digits : Nat) (e : Int) : Float :=
  if n = 0 then 0.0
  else if 310 ≤ e then 1.0 / 0.0
  else if e + digits < -330 then 0.0
  else Float.ofScientific n (e < 0) e.natAbs

/-- The digits behind the point, if there is one. -/
def fraction? : Reader (List Char)
  | '.' :: rest => digits? Char.isDigit rest
  | cs => some ([], cs)

/-- The exponent, if there is one. -/
def exponent? : Reader Int
  | c :: rest =>
    if c = 'e' || c = 'E' then do
      let (ds, cs) ← digits? Char.isDigit (sign rest).2
      let n : Int := numberOf 10 ds
      return (if (sign rest).1 then -n else n, cs)
    else some (0, c :: rest)
  | [] => some (0, [])

/-- A number with a point or an exponent. It must not be too large for a double. -/
def decimal? (cs : List Char) : Option (Toml × List Char) := do
  let (negative, cs) := sign cs
  let (whole, afterWhole) ← wholeDigits cs
  let (places, cs) ← fraction? afterWhole
  let (exponent, rest) ← exponent? cs
  if rest.length = afterWhole.length then none
  let ds := whole ++ places
  let f := decimal (numberOf 10 ds) ds.length (exponent - places.length)
  if f.isInf && !negative then none
  return (.float (if negative then -f else f), rest)

/-- A number that is written in letters. -/
def special? (cs : List Char) : Option (Toml × List Char) :=
  match sign cs with
  | (negative, 'i' :: 'n' :: 'f' :: rest) => some (.float (if negative then -1.0 / 0.0 else 1.0 / 0.0), rest)
  | (_, 'n' :: 'a' :: 'n' :: rest) => some (.float (0.0 / 0.0), rest)
  | _ => none

/-- A number of so many digits within limits. -/
def fixed? (digits low high : Nat) (cs : List Char) : Option (Nat × List Char) :=
  let ds := cs.take digits
  let n := numberOf 10 ds
  if ds.length = digits ∧ ds.all Char.isDigit ∧ low ≤ n ∧ n ≤ high then some (n, cs.drop digits) else none

def expect (c : Char) : List Char → Option (List Char)
  | d :: rest => if c = d then some rest else none
  | [] => none

def monthLength (year month : Nat) : Nat :=
  if month = 2 then if year % 4 = 0 ∧ (year % 100 ≠ 0 ∨ year % 400 = 0) then 29 else 28
  else if month = 4 ∨ month = 6 ∨ month = 9 ∨ month = 11 then 30
  else 31

def date? (cs : List Char) : Option (Date × List Char) := do
  let (year, cs) ← fixed? 4 0 9999 cs
  let (month, cs) ← fixed? 2 1 12 (← expect '-' cs)
  let (day, rest) ← fixed? 2 1 (monthLength year month) (← expect '-' cs)
  return (⟨year, month, day⟩, rest)

/-- The places of a second, if there are any. -/
def secondPlaces? : Reader Nat
  | '.' :: rest =>
    let ds := rest.takeWhile Char.isDigit
    if ds.isEmpty then none
    else some (numberOf 10 ((ds ++ List.replicate 9 '0').take 9), rest.dropWhile Char.isDigit)
  | cs => some (0, cs)

/-- A time of day; a second may be a leap second. -/
def time? (cs : List Char) : Option (Time × List Char) := do
  let (hour, cs) ← fixed? 2 0 23 cs
  let (minute, cs) ← fixed? 2 0 59 (← expect ':' cs)
  let (second, cs) ← fixed? 2 0 60 (← expect ':' cs)
  let (nanosecond, rest) ← secondPlaces? cs
  return (⟨hour, minute, second, nanosecond⟩, rest)

def offset? : Reader Int
  | [] => none
  | c :: rest =>
    if c = 'Z' || c = 'z' then some (0, rest)
    else if c = '+' || c = '-' then do
      let (hours, cs) ← fixed? 2 0 23 rest
      let (minutes, cs) ← fixed? 2 0 59 (← expect ':' cs)
      let distance : Int := hours * 60 + minutes
      return (if c = '-' then -distance else distance, cs)
    else none

/-- The time of day behind a day, if there is one, and the distance, if there is one. -/
def timeOfDay (date : Date) (cs : List Char) : Moment × List Char :=
  match cs with
  | c :: rest =>
    if c = 'T' || c = 't' || c = ' ' then
      match time? rest with
      | some (time, rest) =>
        match offset? rest with
        | some (offset, rest) => (⟨some date, some time, some offset⟩, rest)
        | none => (⟨some date, some time, none⟩, rest)
      | none => (⟨some date, none, none⟩, cs)
    else (⟨some date, none, none⟩, cs)
  | [] => (⟨some date, none, none⟩, [])

def moment? (cs : List Char) : Option (Toml × List Char) :=
  match date? cs with
  | some (date, rest) => some (.moment (timeOfDay date rest).1, (timeOfDay date rest).2)
  | none => (time? cs).map fun r => (.moment { time := some r.1 }, r.2)

end AttributeRelease.Toml
