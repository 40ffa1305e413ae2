import AttributeRelease.Bytes.Percent
import AttributeRelease.Regex.Reader
import AttributeRelease.Text.Lowercase
import AttributeRelease.Text.Numeral

/-!
Filters for log output. A filter is a list of directives with commas between them, and a directive names
the least level of what is shown: of everything, of a target, or of spans with a name or a field, as in
`target[span{field=value}]=level`. Blanks in front of a directive shift what is read as its parts: its
marks are looked for behind them, but its parts are cut out, by their bytes, as if the blanks were not there.
-/

namespace AttributeRelease.Config

/-- How much is shown. -/
inductive LogLevel where
  | off
  | error
  | warn
  | info
  | debug
  | trace
  deriving DecidableEq, Repr

/-- A directive. The field may be wanted with a value. -/
structure Directive where
  level : LogLevel := .trace
  target : Option String := none
  span : Option String := none
  field : Option (String × Option String) := none
  deriving DecidableEq, Repr

/-- The level with a name in either case, or with a number. -/
def LogLevel.ofText? (text : String) : Option LogLevel :=
  match Text.readNumeral 5 text with
  | .ok n => [.off, .error, .warn, .info, .debug, .trace][n]?
  | .error _ =>
    match Text.lowercaseLatin text with
    | "off" => some .off
    | "" | "error" => some .error
    | "warn" => some .warn
    | "info" => some .info
    | "debug" => some .debug
    | "trace" => some .trace
    | _ => none

namespace Directive

/-- Digits with a point, or without one. -/
def isDecimal (cs : List Char) : Bool :=
  let whole := cs.takeWhile Char.isDigit
  match cs.dropWhile Char.isDigit with
  | [] => !whole.isEmpty
  | '.' :: places => places.all Char.isDigit && !(whole.isEmpty && places.isEmpty)
  | _ => false

def isExponent : List Char → Bool
  | '+' :: ds | '-' :: ds => !ds.isEmpty && ds.all Char.isDigit
  | ds => !ds.isEmpty && ds.all Char.isDigit

/-- A number without a sign. -/
def isMagnitude (cs : List Char) : Bool :=
  let isE (c : Char) := c = 'e' || c = 'E'
  let head := cs.takeWhile (!isE ·)
  (match cs.dropWhile (!isE ·) with
    | [] => isDecimal head
    | _ :: exponent => isDecimal head && isExponent exponent)
  || ["inf", "infinity", "nan"].contains (Text.lowercaseLatin (String.ofList cs))

def isNumber (text : String) : Bool :=
  match text.toList with
  | '+' :: rest | '-' :: rest => isMagnitude rest
  | cs => isMagnitude cs

/-- An edge of words that consist of more than ASCII characters. -/
def isWideEdge : Regex.Anchor → Bool
  | .wordEdge _ ascii => !ascii
  | _ => false

/-- Whether a value can be wanted of a field by this pattern. -/
def isValuePattern (text : String) : Bool :=
  (Regex.Pattern.ofText? text).any fun (pattern, _) => !pattern.mentions isWideEdge

/-- A field, perhaps with the value wanted of it: a number or a pattern. -/
def field? (text : String) : Option (String × Option String) :=
  match text.splitOn "=" with
  | name :: value :: _ =>
    if isNumber value || isValuePattern value then some (name, some value) else none
  | _ => if text = "" then none else some (text, none)

/-- How far a directive has been read, with the place where the present part begins. -/
inductive State where
  | start
  | name (place : Nat)
  | span (place : Nat)
  | field (place : Nat)
  | afterField
  | afterSpan
  | level (place : Nat)
  deriving DecidableEq, Repr

/-- A character that a directive may begin with, apart from a bracket. -/
def opens (c : Char) : Bool :=
  ['-', ':', '_'].contains c || Unicode.Latest.alphabetic.contains c.toNat
    || Unicode.Latest.number.contains c.toNat

/-- Goes on by a character at a place; `part` gives the text between two places. -/
def step (part : Nat → Nat → String) (place : Nat) (c : Char) (s : State) (d : Directive) :
    Option (State × Directive) :=
  match s with
  | .start => if c = '[' then some (.span (place + 1), d) else if opens c then some (.name place, d) else none
  | .name start =>
    if c = '=' then some (.level (place + 1), { d with target := some (part start place) })
    else if c = '[' then some (.span (place + 1), { d with target := some (part start place) })
    else some (.name start, d)
  | .span start =>
    if c = ']' then some (.afterSpan, { d with span := some (part start place) })
    else if c = '\x7b' then
      some (.field (place + 1), { d with span := some (part start place) |>.filter (· ≠ "") })
    else some (.span start, d)
  | .field start =>
    if c = '\x7d' then (field? (part start place)).map fun f => (.afterField, { d with field := some f })
    else some (.field start, d)
  | .afterField => if c = ']' then some (.afterSpan, d) else none
  | .afterSpan => if c = '=' then some (.level (place + 1), d) else none
  | .level start => some (.level start, d)

/-- Reads the characters from a place on; places count bytes. -/
def read (part : Nat → Nat → String) : (place : Nat) → List Char → State → Directive → Option (State × Directive)
  | _, [], s, d => some (s, d)
  | place, c :: rest, s, d => do
    let (s, d) ← step part place c s d
    read part (place + c.utf8Size) rest s d

/-- The directive at the end of the text; what is no level is a target. -/
def close (rest : Nat → String) (s : State) (d : Directive) : Option Directive :=
  match s with
  | .name start =>
    match LogLevel.ofText? (rest start) with
    | some level => some { d with level }
    | none => some { d with target := some (rest start) }
  | .level start => if rest start = "" then some d else (LogLevel.ofText? (rest start)).map ({ d with level := · })
  | .afterSpan => some d
  | .start | .span _ | .field _ | .afterField => none

def ofText? (text : String) : Option Directive := do
  let cs := text.toList
  let isSpace (c : Char) := Unicode.Property.whiteSpace.contains c.toNat
  let trimmed := ((cs.dropWhile isSpace).reverse.dropWhile isSpace).reverse
  let bytes := text.toUTF8.toList
  let part (start stop : Nat) := (Bytes.toText? ((bytes.take stop).drop start)).getD ""
  let (s, d) ← read part 0 trimmed .start {}
  close (part · bytes.length) s d

end Directive

def logFilter? (text : String) : Option (List Directive) :=
  ((text.splitOn ",").filter (· ≠ "")).mapM Directive.ofText?

end AttributeRelease.Config
