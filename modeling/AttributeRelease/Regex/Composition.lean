import AttributeRelease.Regex.Pattern

/-!
Composing patterns. What is put together is brought into a simple form on the way: neighbouring texts are
joined, a choice between single characters becomes a class, and what all branches of a choice begin with
stands before it. A part that only looks at a place is looked at once, however often it is repeated.
-/

namespace AttributeRelease.Regex

open Unicode

namespace Pattern

/-- The pattern of a class; a class of one character is a text. -/
def ofClass (chars : CharSet) : Pattern :=
  match chars.single? with
  | some c => .literal [Char.ofNat c]
  | none => .one chars

/-- The parts of a sequence with neighbouring texts joined. -/
def joinTexts : List Pattern → List Pattern
  | [] => []
  | .literal text :: rest =>
    match joinTexts rest with
    | .literal more :: rest => .literal (text ++ more) :: rest
    | rest => .literal text :: rest
  | p :: rest => p :: joinTexts rest

/-- A sequence of parts none of which is a sequence. -/
def ofItems : List Pattern → Pattern
  | [] => .empty
  | [p] => p
  | p :: rest => .seq p (ofItems rest)

def concat (ps : List Pattern) : Pattern := ofItems (joinTexts (ps.flatMap items))

def class? : Pattern → Option CharSet
  | .one chars => some chars
  | _ => none

/-- The character of a pattern that is a text of one. -/
def char? : Pattern → Option CharSet
  | .literal [c] => some (.single c.toNat)
  | _ => none

/-- A choice of branches none of which is a choice; with no branch left nothing matches. -/
def ofBranches : List Pattern → Pattern
  | [] => .one .empty
  | [p] => p
  | p :: rest => .alt p (ofBranches rest)

def commonStart : List Pattern → List Pattern → List Pattern
  | p :: ps, q :: qs => if p = q then p :: commonStart ps qs else []
  | _, _ => []

/-- What all branches begin with, if each of them is a sequence. -/
def sharedItems : List Pattern → List Pattern
  | [] => []
  | p :: rest =>
    if (p :: rest).all (1 < ·.items.length) then rest.foldl (fun start q => commonStart start q.items) p.items
    else []

def partCount : Pattern → Nat
  | .empty | .literal _ | .one _ | .anchor _ => 1
  | .seq a b | .alt a b => a.partCount + b.partCount + 1
  | .repeated _ _ _ p | .group _ p => p.partCount + 1

/-- A choice between patterns. Each step takes a part off every branch, so their number bounds the steps. -/
def chooseWithin (fuel : Nat) (ps : List Pattern) : Pattern :=
  let ps := ps.flatMap branches
  match fuel, ps with
  | 0, ps => ofBranches ps
  | _, [] | _, [_] => ofBranches ps
  | fuel + 1, ps =>
    match ps.mapM char? <|> ps.mapM class? with
    | some sets => ofClass (sets.foldl (· ∪ ·) .empty)
    | none =>
      match sharedItems ps with
      | [] => ofBranches ps
      | start =>
        let rests := ps.map fun p => concat (p.items.drop start.length)
        concat (start ++ [chooseWithin fuel rests])

def choose (ps : List Pattern) : Pattern := chooseWithin (ps.foldl (· + ·.partCount) 0) ps

def repeating (greedy : Bool) (least : Nat) (most : Option Nat) (body : Pattern) : Pattern :=
  let (least, most) := if body.staysInPlace then (min least 1, some (most.elim 1 (min · 1))) else (least, most)
  match least, most with
  | 0, some 0 => .empty
  | 1, some 1 => body
  | least, most => .repeated greedy least most body

end Pattern

end AttributeRelease.Regex
