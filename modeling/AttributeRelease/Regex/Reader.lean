import AttributeRelease.Regex.Composition
import AttributeRelease.Unicode.Case
import AttributeRelease.Unicode.Query

/-!
Reading patterns. A pattern is read from left to right together with the flags in force, which a
group may set for itself and `(?flags)` for what is left of the group around it. Everything the
grammar does not allow is refused: there are no references back and no conditions on what lies ahead.
-/

namespace AttributeRelease.Regex

open Unicode

/-- The flags of a pattern. -/
structure Flags where
  ignoreCase : Bool := false
  multiLine : Bool := false
  dotMatchesAll : Bool := false
  swapGreed : Bool := false
  unicode : Bool := true
  carriageReturns : Bool := false
  /-- Blanks and comments in the pattern stand for nothing. -/
  spaced : Bool := false
  deriving DecidableEq, Repr

def Flags.set? (flags : Flags) (letter : Char) (on : Bool) : Option Flags :=
  match letter with
  | 'i' => some { flags with ignoreCase := on }
  | 'm' => some { flags with multiLine := on }
  | 's' => some { flags with dotMatchesAll := on }
  | 'U' => some { flags with swapGreed := on }
  | 'u' => some { flags with unicode := on }
  | 'R' => some { flags with carriageReturns := on }
  | 'x' => some { flags with spaced := on }
  | _ => none

namespace Reader

/-- What is left to read, and what was met so far. -/
structure State where
  rest : List Char
  flags : Flags := {}
  /-- The number of groups opened. -/
  opened : Nat := 0
  names : List (String × Nat) := []

/-- A step of reading, which may refuse the pattern. -/
abbrev Reading := StateT State Option

def isBlank (c : Char) : Bool := Property.whiteSpace.contains c.toNat

/-- Drops blanks and comments; a comment ends with its line. -/
def dropSpace (inComment : Bool) : List Char → List Char
  | [] => []
  | c :: rest =>
    if inComment then dropSpace (c ≠ '\n') rest
    else if isBlank c then dropSpace false rest
    else if c = '#' then dropSpace true rest
    else c :: rest

/-- Drops blanks and comments where they stand for nothing. -/
def skip (spaced : Bool) (cs : List Char) : List Char := if spaced then dropSpace false cs else cs

def rest : Reading (List Char) := return (← get).rest

def goOn (cs : List Char) : Reading Unit := modify fun s => { s with rest := cs }

/-- Goes on with the next character that stands for something. -/
def goOnSkipping (cs : List Char) : Reading Unit :=
  modify fun s => { s with rest := skip s.flags.spaced cs }

/-- The leading characters that pass a test, with spaces skipped after each, and the rest. -/
def takeSpaced (spaced : Bool) (p : Char → Bool) : Nat → List Char → List Char × List Char
  | 0, cs => ([], cs)
  | _, [] => ([], [])
  | fuel + 1, c :: rest =>
    if p c then
      let (taken, left) := takeSpaced spaced p fuel (skip spaced rest)
      (c :: taken, left)
    else ([], c :: rest)

def takeWhile (p : Char → Bool) : Reading (List Char) := do
  let s ← get
  let (taken, left) := takeSpaced s.flags.spaced p s.rest.length s.rest
  goOn left
  return taken

/-- The value of a hexadecimal digit in either case. -/
def hexDigit? (c : Char) : Option Nat := hexDigitValue? (Text.lowerLatin c)

/-- The character with a code point written in hexadecimal. -/
def charOfHex? (digits : List Char) : Option Char := do
  let n ← hexNumber? (digits.map Text.lowerLatin)
  if n < 0xD800 ∨ (0xDFFF < n ∧ n < 0x110000) then some (Char.ofNat n) else none

/-- Characters with a meaning of their own, which lose it after a backslash. -/
def isMeta (c : Char) : Bool :=
  ['\\', '.', '+', '*', '?', '(', ')', '|', '[', ']', '\x7b', '\x7d', '^', '$', '#', '&', '-', '~'].contains c

/-- Other characters that may follow a backslash and stand for themselves. -/
def isPlain (c : Char) : Bool := c.toNat < 0x80 && !c.isAlphanum && c ≠ '<' && c ≠ '>'

/-- What a backslash and what follows it stand for. -/
inductive Escape where
  /-- A character; `byte` says that it was written as the value of a byte. -/
  | char (c : Char) (byte : Bool)
  | digits (negated : Bool)
  | blanks (negated : Bool)
  | word (negated : Bool)
  | property (negated : Bool) (query : ClassQuery)
  | anchor (a : Anchor)

/-- Splits at the first place where a separator stands. -/
def splitAt? (separator : List Char) : List Char → Option (List Char × List Char)
  | [] => none
  | c :: rest =>
    if separator.isPrefixOf (c :: rest) then some ([], (c :: rest).drop separator.length)
    else (splitAt? separator rest).map fun (before, after) => (c :: before, after)

/-- A query as it stands between braces, negated if it is written with `!=`. -/
def queryOf (text : List Char) : Bool × ClassQuery :=
  match splitAt? ['!', '='] text with
  | some (property, value) => (true, .valued property value)
  | none =>
    match splitAt? [':'] text with
    | some (property, value) => (false, .valued property value)
    | none =>
      match splitAt? ['='] text with
      | some (property, value) => (false, .valued property value)
      | none => (false, .named text)

/-- Reads what stands between braces, from behind the opening one. -/
def braced : Reading (List Char) := do
  let text ← takeWhile (· ≠ '\x7d')
  match ← rest with
  | _ :: left =>
    goOn left
    return text
  | [] => failure

/-- Reads a property, from behind its `p`. -/
def property (negated : Bool) : Reading Escape := do
  goOnSkipping ((← rest).drop 1)
  match ← rest with
  | [] | '\\' :: _ => failure
  | '\x7b' :: left =>
    goOnSkipping left
    let (unequal, query) := queryOf (← braced)
    return .property (negated != unequal) query
  | c :: left =>
    goOnSkipping left
    return .property negated (.named [c])

/-- Reads exactly `n` hexadecimal digits. -/
def fixedHex : Nat → Reading (List Char)
  | 0 => return []
  | n + 1 => do
    match ← rest with
    | [] => failure
    | c :: left =>
      goOnSkipping left
      return c :: (← fixedHex n)

/-- Reads a character given by its code point, from the letter that says how many digits it has. -/
def hexChar (digits : Nat) : Reading Escape := do
  goOnSkipping ((← rest).drop 1)
  match ← rest with
  | '\x7b' :: left =>
    goOnSkipping left
    let some c := charOfHex? (← braced) | failure
    goOnSkipping (← rest)
    return .char c false
  | _ =>
    let some c := charOfHex? (← fixedHex digits) | failure
    return .char c (digits = 2)

def isEdgeLetter (c : Char) : Bool := c.isAlpha || c = '-'

/-- Reads the kind of a word edge, from behind the `b`; without one in braces it is any edge. -/
def wordEdge : Reading Edge := do
  match ← rest with
  | '\x7b' :: left =>
    let before := (← get).rest
    goOnSkipping left
    match ← rest with
    | [] => failure
    | c :: _ =>
      if isEdgeLetter c then
        let name ← takeWhile isEdgeLetter
        match ← rest with
        | '\x7d' :: left =>
          goOn left
          match String.ofList name with
          | "start" => return .start
          | "end" => return .finish
          | "start-half" => return .notAfterWord
          | "end-half" => return .notBeforeWord
          | _ => failure
        | _ => failure
      else
        goOn before
        return .any
  | _ => return .any

/-- Reads what a backslash introduces, from behind it. -/
def escape : Reading Escape := do
  match ← rest with
  | [] => failure
  | c :: left =>
    match c with
    | 'x' => hexChar 2
    | 'u' => hexChar 4
    | 'U' => hexChar 8
    | 'p' => property false
    | 'P' => property true
    | _ =>
      goOn left
      let ascii := !(← get).flags.unicode
      match c with
      | 'd' => return .digits false
      | 'D' => return .digits true
      | 's' => return .blanks false
      | 'S' => return .blanks true
      | 'w' => return .word false
      | 'W' => return .word true
      | 'a' => return .char '\x07' false
      | 'f' => return .char '\x0c' false
      | 't' => return .char '\t' false
      | 'n' => return .char '\n' false
      | 'r' => return .char '\r' false
      | 'v' => return .char '\x0b' false
      | 'A' => return .anchor .textStart
      | 'z' => return .anchor .textEnd
      | 'b' => return .anchor (.wordEdge (← wordEdge) ascii)
      | 'B' => return .anchor (.wordEdge .none ascii)
      | '<' => return .anchor (.wordEdge .start ascii)
      | '>' => return .anchor (.wordEdge .finish ascii)
      | c => if isMeta c || isPlain c then return .char c false else failure

/-- The class with all variants in case, if case is ignored. -/
def fold (chars : CharSet) : Reading CharSet := do
  let flags := (← get).flags
  return if flags.ignoreCase then chars.closure (if flags.unicode then caseTable else asciiCaseTable)
    else chars

/-- The class or its complement; a complement within bytes would not keep to characters. -/
def negateIf (negated : Bool) (chars : CharSet) : Reading CharSet := do
  if !negated then return chars
  else if (← get).flags.unicode then return chars.compl
  else failure

/-- The class of an escape, unless it is one character or a condition. -/
def classOfEscape : Escape → Reading CharSet
  | .digits negated => do
    let unicode := (← get).flags.unicode
    negateIf negated (if unicode then Category.decimalNumber else .ofText "30-39")
  | .blanks negated => do
    let unicode := (← get).flags.unicode
    negateIf negated (if unicode then Property.whiteSpace else .ofText "9-d 20")
  | .word negated => do
    let unicode := (← get).flags.unicode
    negateIf negated (if unicode then Property.word else asciiWord)
  | .property negated query => do
    if !(← get).flags.unicode then failure
    let some chars := query.class? | failure
    negateIf negated (← fold chars)
  | .char .. | .anchor _ => failure

/-- The classes of ASCII characters that have names. -/
def asciiClass? (name : String) : Option CharSet :=
  match name with
  | "alnum" => some (.ofText "30-39 41-5a 61-7a")
  | "alpha" => some (.ofText "41-5a 61-7a")
  | "ascii" => some (.ofText "0-7f")
  | "blank" => some (.ofText "9 20")
  | "cntrl" => some (.ofText "0-1f 7f")
  | "digit" => some (.ofText "30-39")
  | "graph" => some (.ofText "21-7e")
  | "lower" => some (.ofText "61-7a")
  | "print" => some (.ofText "20-7e")
  | "punct" => some (.ofText "21-2f 3a-40 5b-60 7b-7e")
  | "space" => some (.ofText "9-d 20")
  | "upper" => some (.ofText "41-5a")
  | "word" => some asciiWord
  | "xdigit" => some (.ofText "30-39 41-46 61-66")
  | _ => none

/-- A named class such as `[:alpha:]`, with what follows it. -/
def namedClass? (cs : List Char) : Option (Bool × CharSet × List Char) :=
  match cs with
  | '[' :: ':' :: cs =>
    let (negated, cs) := match cs with
      | '^' :: cs => (true, cs)
      | cs => (false, cs)
    match cs.dropWhile (· ≠ ':') with
    | ':' :: ']' :: left =>
      (asciiClass? (String.ofList (cs.takeWhile (· ≠ ':')))).map (negated, ·, left)
    | _ => none
  | _ => none

/-- A class and how deep it nests. -/
structure Nested where
  chars : CharSet
  depth : Nat

def unite : List Nested → Nested
  | [] => ⟨.empty, 0⟩
  | [n] => n
  | n :: rest =>
    ⟨.ofRanges ((n :: rest).flatMap (·.chars.ranges)),
      1 + rest.foldl (fun depth m => max depth m.depth) n.depth⟩

/-- A character as a member of a class; within bytes it must be ASCII. -/
def memberChar : Escape → Reading Char
  | .char c _ => do
    if (← get).flags.unicode || c.toNat < 0x80 then return c else failure
  | _ => failure

/-- Reads a character or an escape inside brackets. -/
def bracketItem : Reading Escape := do
  match ← rest with
  | [] => failure
  | '\\' :: left =>
    goOn left
    escape
  | c :: left =>
    goOn left
    return .char c false

/-- The character that follows the next one, spaces apart. -/
def second (spaced : Bool) : List Char → Option Char
  | [] => none
  | _ :: left => (skip spaced left).head?

/-- Reads a range, or a class that stands for itself. -/
def range : Reading CharSet := do
  let first ← bracketItem
  goOnSkipping (← rest)
  let s ← get
  match s.rest with
  | [] => failure
  | c :: left =>
    let next := second s.flags.spaced s.rest
    if c ≠ '-' || next = some ']' || next = some '-' then
      match first with
      | .char .. =>
        let c ← memberChar first
        return .single c.toNat
      | e => classOfEscape e
    else
      goOnSkipping left
      if (← rest).isEmpty then failure
      let last ← bracketItem
      let first ← memberChar first
      let last ← memberChar last
      if first ≤ last then return .interval first.toNat last.toNat else failure

/-- An operation between the parts of a bracket. -/
inductive SetOperation where
  | intersection
  | difference
  | symmetricDifference

/-- The operation that stands next, with what follows it. -/
def operation? : List Char → Option (SetOperation × List Char)
  | '&' :: '&' :: left => some (.intersection, left)
  | '-' :: '-' :: left => some (.difference, left)
  | '~' :: '~' :: left => some (.symmetricDifference, left)
  | _ => none

def combine (op : SetOperation) (a b : Nested) : Reading Nested := do
  let x ← fold a.chars
  let y ← fold b.chars
  let chars := match op with
    | .intersection => x ∩ y
    | .difference => x \ y
    | .symmetricDifference => x.symmDiff y
  return ⟨chars, 1 + max a.depth b.depth⟩

/-- Reads the hyphens that may stand first in a bracket. -/
def leadingHyphens (spaced : Bool) : Nat → List Char → Nat × List Char
  | 0, cs => (0, cs)
  | fuel + 1, '-' :: left =>
    let (n, left) := leadingHyphens spaced fuel (skip spaced left)
    (n + 1, left)
  | _, cs => (0, cs)

/-- Reads the opening of a bracket: whether it is negated, and the characters that must stand first. -/
def bracketStart : Reading (Bool × List Nested) := do
  goOnSkipping ((← rest).drop 1)
  let negated ← match ← rest with
    | '^' :: left =>
      goOnSkipping left
      pure true
    | _ => pure false
  let s ← get
  let (hyphens, left) := leadingHyphens s.flags.spaced s.rest.length s.rest
  goOn left
  let initial := List.replicate hyphens (Nested.mk (.interval 0x2D 0x2D) 0)
  match hyphens, left with
  | _, [] => failure
  | 0, ']' :: left =>
    goOnSkipping left
    if (← rest).isEmpty then failure
    return (negated, [⟨.interval 0x5D 0x5D, 0⟩])
  | _, _ => return (negated, initial)

mutual

def bracket (fuel : Nat) : Reading Nested := do
  match fuel with
  | 0 => failure
  | fuel + 1 =>
    let (negated, initial) ← bracketStart
    let inside ← bracketParts fuel none initial
    let chars ← negateIf negated (← fold inside.chars)
    return ⟨chars, 1 + inside.depth⟩

/--
Reads the parts of a bracket up to its end. `left` is what stands before the last operation, `items`
are the classes after it, last first.
-/
def bracketParts (fuel : Nat) (left : Option (SetOperation × Nested)) (items : List Nested) :
    Reading Nested := do
  match fuel with
  | 0 => failure
  | fuel + 1 =>
    goOnSkipping (← rest)
    let close : Reading Nested := match left with
      | some (op, a) => combine op a (unite items.reverse)
      | none => return unite items.reverse
    let cs ← rest
    match operation? cs with
    | some (op, after) =>
      let a ← close
      goOn after
      bracketParts fuel (some (op, a)) []
    | none =>
      match cs with
      | [] => failure
      | ']' :: after =>
        goOn after
        close
      | '[' :: _ =>
        match namedClass? cs with
        | some (negated, chars, after) =>
          goOn after
          let chars ← negateIf negated (← fold chars)
          bracketParts fuel left (⟨chars, 0⟩ :: items)
        | none =>
          let nested ← bracket fuel
          bracketParts fuel left (nested :: items)
      | _ =>
        let chars ← range
        bracketParts fuel left (⟨chars, 0⟩ :: items)

end

/-! ### Patterns -/

/-- A part of a pattern, how deep it nests, and whether it only sets flags. -/
structure Part where
  pattern : Pattern
  depth : Nat
  isFlags : Bool := false

def sequence : List Part → Part
  | [] => ⟨.empty, 0, false⟩
  | [p] => ⟨p.pattern, p.depth, false⟩
  | parts => ⟨.concat (parts.map (·.pattern)), 1 + parts.foldl (fun depth p => max depth p.depth) 0, false⟩

def choice : List Part → Part
  | [] => ⟨.empty, 0, false⟩
  | [p] => p
  | parts => ⟨.choose (parts.map (·.pattern)), 1 + parts.foldl (fun depth p => max depth p.depth) 0, false⟩

/-- The pattern of one character, or of its variants if case is ignored. -/
def charPattern (c : Char) (byte : Bool) : Reading Pattern := do
  let unicode := (← get).flags.unicode
  if byte && !unicode && 0x80 ≤ c.toNat then failure
  return .ofClass (← fold (.single c.toNat))

def dot : Reading CharSet := do
  let flags := (← get).flags
  if !flags.unicode then failure
  return if flags.dotMatchesAll then .any
    else if flags.carriageReturns then (CharSet.ofText "a d").compl
    else (CharSet.single 0xA).compl

/-- Reads a pattern of one character, class or place. -/
def atom : Reading Pattern := do
  let flags := (← get).flags
  match ← rest with
  | [] => failure
  | '\\' :: left =>
    goOn left
    match ← escape with
    | .char c byte => charPattern c byte
    | .anchor a => return .anchor a
    | e => return .ofClass (← classOfEscape e)
  | c :: left =>
    goOn left
    match c with
    | '.' => return .ofClass (← dot)
    | '^' => return .anchor (if flags.multiLine then .lineStart flags.carriageReturns else .textStart)
    | '$' => return .anchor (if flags.multiLine then .lineEnd flags.carriageReturns else .textEnd)
    | c => charPattern c false

def maxCount : Nat := 0xFFFFFFFF

/-- Reads the bound of a repetition, `none` if there is no digit. -/
def count : Reading (Option Nat) := do
  goOn ((← rest).dropWhile isBlank)
  let digits ← takeWhile Char.isDigit
  goOn ((← rest).dropWhile isBlank)
  if digits.isEmpty then return none
  else
    let n := digits.foldl (fun n c => n * 10 + (c.toNat - 48)) 0
    if n ≤ maxCount then return some n else failure

/-- Reads the bounds of a repetition, from behind the opening brace. -/
def bounds : Reading (Nat × Option Nat) := do
  goOnSkipping (← rest)
  if (← rest).isEmpty then failure
  let some least ← count | failure
  let most ← match ← rest with
    | ',' :: left =>
      goOnSkipping left
      match ← rest with
      | '\x7d' :: _ => pure none
      | _ =>
        let some most ← count | failure
        pure (some most)
    | _ => pure (some least)
  match ← rest with
  | '\x7d' :: left =>
    goOnSkipping left
    if most.all (least ≤ ·) then return (least, most) else failure
  | _ => failure

def repeatLast (least : Nat) (most : Option Nat) (parts : List Part) : Reading (List Part) := do
  match parts with
  | [] => failure
  | p :: others =>
    if p.isFlags then failure
    let reluctant ← match ← rest with
      | '?' :: left =>
        goOn left
        pure true
      | _ => pure false
    let greedy := reluctant == (← get).flags.swapGreed
    return ⟨.repeating greedy least most p.pattern, 1 + p.depth, false⟩ :: others

/-- Reads flags up to a colon or a closing parenthesis; `used` are the letters met so far. -/
def readFlags (flags : Flags) (negated : Bool) (used last : List Char) :
    List Char → Option (Flags × List Char × List Char)
  | [] => none
  | c :: left =>
    if c = ':' ∨ c = ')' then
      if last = ['-'] then none else some (flags, used, c :: left)
    else if used.contains c then none
    else if c = '-' then readFlags flags true ('-' :: used) ['-'] left
    else do readFlags (← flags.set? c !negated) negated (c :: used) [c] left

/-- A character that may start the name of a group. -/
def startsName (c : Char) : Bool := c = '_' || Latest.alphabetic.contains c.toNat

/-- A character that may go on the name of a group. -/
def continuesName (c : Char) : Bool :=
  startsName c || c = '.' || c = '[' || c = ']' || Latest.number.contains c.toNat

/-- Reads the name of a group and the bracket after it. -/
def groupName : Reading String := do
  let cs ← rest
  match cs with
  | [] => failure
  | c :: _ =>
    let name := cs.takeWhile continuesName
    match cs.dropWhile continuesName with
    | '>' :: left =>
      if startsName c then
        goOn left
        return String.ofList name
      else failure
    | _ => failure

/-- How a parenthesis opens. -/
inductive Opening where
  | group (index : Nat)
  | plain (flags : Flags)
  | flags (flags : Flags)

def newGroup (name : Option String) : Reading Opening := do
  let s ← get
  let index := s.opened + 1
  match name with
  | none => set { s with opened := index }
  | some name =>
    if (s.names.lookup name).isSome then failure
    set { s with opened := index, names := s.names ++ [(name, index)] }
  return .group index

/-- Reads the opening of a parenthesis, from behind it. -/
def opening : Reading Opening := do
  goOnSkipping (← rest)
  match ← rest with
  | '?' :: 'P' :: '<' :: left =>
    goOn left
    newGroup (some (← groupName))
  | '?' :: '<' :: left =>
    goOn left
    newGroup (some (← groupName))
  | '?' :: left =>
    let some (flags, used, left) := readFlags (← get).flags false [] [] left | failure
    match left with
    | ')' :: left =>
      if used.isEmpty then failure
      goOn left
      return .flags flags
    | _ =>
      goOn (left.drop 1)
      return .plain flags
  | _ => newGroup none

mutual

/-- Reads alternatives up to the end of the group around them. -/
def alternatives (fuel : Nat) : Reading (List Part) := do
  match fuel with
  | 0 => failure
  | fuel + 1 =>
    let p ← parts fuel []
    match ← rest with
    | '|' :: left =>
      goOn left
      return p :: (← alternatives fuel)
    | _ => return [p]

/-- Reads the parts of one alternative; those read so far stand last first. -/
def parts (fuel : Nat) (read : List Part) : Reading Part := do
  match fuel with
  | 0 => failure
  | fuel + 1 =>
    goOnSkipping (← rest)
    match ← rest with
    | [] | ')' :: _ | '|' :: _ => return sequence read.reverse
    | '(' :: left =>
      goOn left
      let outer := (← get).flags
      match ← opening with
      | .flags flags =>
        modify fun s => { s with flags }
        parts fuel (⟨.empty, 0, true⟩ :: read)
      | .plain flags =>
        modify fun s => { s with flags }
        let inside ← closed fuel outer
        parts fuel (⟨inside.pattern, 1 + inside.depth, false⟩ :: read)
      | .group index =>
        let inside ← closed fuel outer
        parts fuel (⟨.group index inside.pattern, 1 + inside.depth, false⟩ :: read)
    | '[' :: _ =>
      let chars ← bracket fuel
      parts fuel (⟨.ofClass chars.chars, chars.depth, false⟩ :: read)
    | '?' :: left =>
      goOn left
      parts fuel (← repeatLast 0 (some 1) read)
    | '*' :: left =>
      goOn left
      parts fuel (← repeatLast 0 none read)
    | '+' :: left =>
      goOn left
      parts fuel (← repeatLast 1 none read)
    | '\x7b' :: left =>
      goOn left
      let (least, most) ← bounds
      parts fuel (← repeatLast least most read)
    | _ =>
      let p ← atom
      parts fuel (⟨p, 0, false⟩ :: read)

/-- Reads what a group holds and its closing parenthesis, after which the outer flags are in force. -/
def closed (fuel : Nat) (outer : Flags) : Reading Part := do
  match fuel with
  | 0 => failure
  | fuel + 1 =>
    let inside ← alternatives fuel
    match ← rest with
    | ')' :: left =>
      modify fun s => { s with rest := left, flags := outer }
      return choice inside
    | _ => failure

end

end Reader

def maxNesting : Nat := 250

/--
The pattern of a text with the names of its groups, `none` if the text is no pattern. Of every three
steps of the reader one consumes a character, which bounds their number.
-/
def Pattern.ofText? (text : String) : Option (Pattern × List (String × Nat)) := do
  let cs := text.toList
  let (parts, s) ← (Reader.alternatives (3 * cs.length + 3)).run { rest := cs }
  let part := Reader.choice parts
  if s.rest.isEmpty ∧ part.depth ≤ maxNesting then some (part.pattern, s.names) else none

end AttributeRelease.Regex
