/-!
Durations in words: whole milliseconds below a second, and from there on seconds with as many decimal
places as they need.
-/

namespace AttributeRelease.Text

/-- The digits of the thousandths behind the point, without zeros at the end. -/
def thousandths (n : Nat) : List Char :=
  let digits := [n / 100 % 10, n / 10 % 10, n % 10]
  (digits.reverse.dropWhile (· = 0)).reverse.map Nat.digitChar

def duration (ms : Nat) : String :=
  if ms = 0 then "0ns"
  else if ms < 1000 then s!"{ms}ms"
  else
    let places := thousandths (ms % 1000)
    let seconds := Nat.toDigits 10 (ms / 1000)
    String.ofList (seconds ++ (if places.isEmpty then [] else '.' :: places) ++ ['s'])

end AttributeRelease.Text
