/-!
Sets of characters, listed as ranges of code points in ascending order. A set is read, and united with
another one, so that ranges which overlap or touch become one; a complement leaves out the surrogates
next to its ends, since they are no characters, and lists the gaps between neighbouring ranges one by one.

Sets are written as hexadecimal ranges with blanks or line ends between them: `41`, `61-7a`, or `100-12e/2` for
every second code point of a range.
-/

namespace AttributeRelease.Unicode

/-- The value of a hexadecimal digit in lower case. -/
def hexDigitValue? (c : Char) : Option Nat :=
  if '0' ≤ c ∧ c ≤ '9' then some (c.toNat - 48)
  else if 'a' ≤ c ∧ c ≤ 'f' then some (c.toNat - 87)
  else none

def hexNumber? (digits : List Char) : Option Nat :=
  if digits.isEmpty then none
  else digits.foldlM (fun n c => (hexDigitValue? c).map (n * 16 + ·)) 0

/-- Every `step`-th code point from `first` to `last`. -/
structure Progression where
  first : Nat
  last : Nat
  step : Nat
  deriving DecidableEq, Repr

namespace Progression

/-- Whether the code point belongs to the progression. -/
def contains (p : Progression) (c : Nat) : Bool :=
  p.first ≤ c && c ≤ p.last && (c - p.first) % p.step = 0

def toList (p : Progression) : List Nat :=
  (List.range ((p.last - p.first) / p.step + 1)).map (p.first + · * p.step)

/-- Reads a progression as it is written. -/
def ofText? (text : List Char) : Option Progression := do
  let (bounds, step) ← match text.splitOn '/' with
    | [bounds] => some (bounds, 1)
    | [bounds, step] => (hexNumber? step).map (bounds, ·)
    | _ => none
  match bounds.splitOn '-' with
  | [first] =>
    let first ← hexNumber? first
    return ⟨first, first, 1⟩
  | [first, last] => return ⟨← hexNumber? first, ← hexNumber? last, step⟩
  | _ => none

end Progression

/-- The parts of a text between its blanks and line ends. -/
def words (text : String) : List (List Char) := text.toList.splitOnP fun c => c = ' ' || c = '\n'

/-- The code points from `first` to `last`. -/
structure CharRange where
  first : Nat
  last : Nat
  deriving DecidableEq, Repr

namespace CharRange

def contains (r : CharRange) (c : Nat) : Bool := r.first ≤ c && c ≤ r.last

def ofProgression (p : Progression) : List CharRange :=
  if p.step = 1 then [⟨p.first, p.last⟩] else p.toList.map fun c => ⟨c, c⟩

/-- The range between two bounds in either order. -/
def between (a b : Nat) : CharRange := ⟨min a b, max a b⟩

/-- Unites ranges that overlap or touch with the range before them; they stand in ascending order. -/
def joinTo (r : CharRange) : List CharRange → List CharRange
  | [] => [r]
  | s :: rest => if s.first ≤ r.last + 1 then joinTo ⟨r.first, max r.last s.last⟩ rest else r :: joinTo s rest

/-- Unites ranges that overlap or touch; they stand in ascending order. -/
def join : List CharRange → List CharRange
  | [] => []
  | r :: rest => joinTo r rest

/-- Whether a range does not begin behind another one. -/
def precedes (r s : CharRange) : Bool := r.first < s.first || (r.first = s.first && r.last ≤ s.last)

/-- The last code point there is. -/
def top : Nat := 0x10FFFF

def next (c : Nat) : Nat := if c = 0xD7FF then 0xE000 else c + 1

def previous (c : Nat) : Nat := if c = 0xE000 then 0xD7FF else c - 1

/-- What lies between neighbouring ranges, and after the last one. -/
def gaps : List CharRange → List CharRange
  | [] => []
  | [r] => if r.last < top then [⟨next r.last, top⟩] else []
  | r :: s :: rest => between (next r.last) (previous s.first) :: gaps (s :: rest)

def inter : List CharRange → List CharRange → List CharRange
  | [], _ | _, [] => []
  | r :: rs, s :: ss =>
    let first := max r.first s.first
    let last := min r.last s.last
    let shared := if first ≤ last then [⟨first, last⟩] else []
    shared ++ if r.last < s.last then inter rs (s :: ss) else inter (r :: rs) ss
termination_by rs ss => rs.length + ss.length

/-- What a list of ranges has for itself. -/
def diff : List CharRange → List CharRange → List CharRange
  | [], _ => []
  | rs, [] => rs
  | r :: rs, s :: ss =>
    if s.last < r.first then diff (r :: rs) ss
    else if r.last < s.first then r :: diff rs (s :: ss)
    else
      let before := if r.first < s.first then [⟨r.first, previous s.first⟩] else []
      before ++ if s.last < r.last then diff (⟨next s.last, r.last⟩ :: rs) ss else diff rs (s :: ss)
termination_by rs ss => rs.length + ss.length

end CharRange

/-- A set of characters as a list of ranges. -/
structure CharSet where
  ranges : List CharRange
  deriving DecidableEq, Repr

namespace CharSet

def ofRanges (ranges : List CharRange) : CharSet := ⟨CharRange.join (ranges.mergeSort CharRange.precedes)⟩

/-- Reads a set as it is written. -/
def ofText (text : String) : CharSet :=
  ofRanges (((words text).filterMap Progression.ofText?).flatMap CharRange.ofProgression)

def ofList (cs : List Nat) : CharSet := ofRanges (cs.map fun c => ⟨c, c⟩)

def empty : CharSet := ⟨[]⟩

def any : CharSet := ⟨[⟨0, CharRange.top⟩]⟩

def interval (first last : Nat) : CharSet := ⟨[⟨first, last⟩]⟩

def single (c : Nat) : CharSet := interval c c

def contains (s : CharSet) (c : Nat) : Bool := s.ranges.any (·.contains c)

/-- The one character of the set, if it has no other. -/
def single? (s : CharSet) : Option Nat :=
  match s.ranges with
  | [r] => if r.first = r.last then some r.first else none
  | _ => none

instance : Union CharSet := ⟨fun a b => ⟨CharRange.join (a.ranges.merge b.ranges CharRange.precedes)⟩⟩

instance : Inter CharSet := ⟨fun a b => ⟨CharRange.inter a.ranges b.ranges⟩⟩

instance : SDiff CharSet := ⟨fun a b => ⟨CharRange.diff a.ranges b.ranges⟩⟩

/-- The characters that belong to one of two sets only. -/
def symmDiff (a b : CharSet) : CharSet := (a ∪ b) \ (a ∩ b)

def compl (s : CharSet) : CharSet :=
  match s.ranges with
  | [] => any
  | r :: rest =>
    ⟨(if 0 < r.first then [⟨0, CharRange.previous r.first⟩] else []) ++ CharRange.gaps (r :: rest)⟩

/-- All characters that are tied to one of the set by a table of characters with their representatives. -/
def closure (table : List (Nat × Nat)) (s : CharSet) : CharSet :=
  let represented := s ∪ ofList (table.filterMap fun (c, first) => if s.contains c then some first else none)
  represented ∪ ofList (table.filterMap fun (c, first) => if represented.contains first then some c else none)

end CharSet

end AttributeRelease.Unicode
