import AttributeRelease.Bytes.Hex

/-!
Blanks, comments, strings and keys of TOML documents. Each reader takes the characters still to be read
and gives what it read together with the rest.
-/

namespace AttributeRelease.Toml

abbrev Reader (α : Type) := List Char → Option (α × List Char)

/-- The deepest nesting of arrays and tables, and the largest number of keys with dots between them. -/
def maxDepth : Nat := 79

def isBlank (c : Char) : Bool := c = ' ' || c = '\t'

/-- The characters from the next one on that is no blank. -/
def dropBlanks (cs : List Char) : List Char := cs.dropWhile isBlank

/-- A character that may stand in comments and strings of one line. -/
def isLineChar (c : Char) : Bool := c = '\t' || (0x20 ≤ c.toNat && c.toNat ≠ 0x7F)

def nextLine? : List Char → Option (List Char)
  | '\n' :: rest | '\r' :: '\n' :: rest => some rest
  | _ => none

def dropComment : List Char → List Char
  | '#' :: rest => rest.dropWhile isLineChar
  | cs => cs

/-- The characters of the next line, after nothing but blanks and a comment; a document may end as well. -/
def endLine? (cs : List Char) : Option (List Char) :=
  match dropComment (dropBlanks cs) with
  | [] => some []
  | cs => nextLine? cs

/-- Passes over blanks, comments and ends of lines. -/
def passLines : (fuel : Nat) → List Char → Option (List Char)
  | 0, _ => none
  | fuel + 1, cs =>
    match dropBlanks cs with
    | [] => some []
    | c :: rest =>
      if c = '#' || c = '\n' || c = '\r' then (nextLine? (dropComment (c :: rest))).bind (passLines fuel)
      else some (c :: rest)

/-- The characters from the next one on that is neither blank nor comment. -/
def dropLines? (cs : List Char) : Option (List Char) := passLines (cs.length + 1) cs

/-- The character of a number of hexadecimal digits. -/
def codePoint? (digits : Nat) (cs : List Char) : Option (Char × List Char) := do
  let ds ← (cs.take digits).mapM Bytes.hexValue?
  let n := ds.foldl (fun n d => n * 16 + d) 0
  if ds.length = digits ∧ n.isValidChar then return (Char.ofNat n, cs.drop digits) else none

def escape? : Reader Char
  | 'b' :: rest => some ('\x08', rest)
  | 't' :: rest => some ('\t', rest)
  | 'n' :: rest => some ('\n', rest)
  | 'f' :: rest => some ('\x0c', rest)
  | 'r' :: rest => some ('\r', rest)
  | '"' :: rest => some ('"', rest)
  | '\\' :: rest => some ('\\', rest)
  | 'u' :: rest => codePoint? 4 rest
  | 'U' :: rest => codePoint? 8 rest
  | _ => none

/-- Puts a character before what is read next. -/
def andThen (c : Char) (read : Option (List Char × List Char)) : Option (List Char × List Char) :=
  read.map fun r => (c :: r.1, r.2)

def basicString : (fuel : Nat) → Reader (List Char)
  | 0, _ | _, [] => none
  | fuel + 1, c :: rest =>
    if c = '"' then some ([], rest)
    else if c = '\\' then (escape? rest).bind fun r => andThen r.1 (basicString fuel r.2)
    else if isLineChar c then andThen c (basicString fuel rest)
    else none

/-- A string without escapes on one line after its opening quote. -/
def literalString : Reader (List Char)
  | [] => none
  | c :: rest =>
    if c = '\'' then some ([], rest)
    else if isLineChar c then andThen c (literalString rest)
    else none

/-- The end of a string of several lines: up to two quotes before the last three belong to it. -/
def closing (quote : Char) (rest : List Char) : List Char × List Char :=
  let more := (rest.take 2).takeWhile (· = quote)
  (more, rest.drop more.length)

/-- The characters after a backslash that hides the end of its line and all blanks that follow. -/
def joinLines? (cs : List Char) : Option (List Char) :=
  (nextLine? (dropBlanks cs)).map fun rest =>
    let rec pass : List Char → List Char
      | '\r' :: '\n' :: rest => pass rest
      | c :: rest => if isBlank c || c = '\n' then pass rest else c :: rest
      | [] => []
    pass rest

/-- A string of several lines after its opening quotes. -/
def longString (quote : Char) (escapes : Bool) : (fuel : Nat) → Reader (List Char)
  | 0, _ | _, [] => none
  | fuel + 1, c :: rest =>
    if [quote, quote, quote].isPrefixOf (c :: rest) then some (closing quote (rest.drop 2))
    else if escapes && c = '\\' then
      match joinLines? rest with
      | some rest => longString quote escapes fuel rest
      | none => (escape? rest).bind fun r => andThen r.1 (longString quote escapes fuel r.2)
    else
      match nextLine? (c :: rest) with
      | some rest => andThen '\n' (longString quote escapes fuel rest)
      | none => if isLineChar c then andThen c (longString quote escapes fuel rest) else none

/-- A string of several lines after its opening quotes, without the end of line that may follow them. -/
def longStringOf (quote : Char) (escapes : Bool) (cs : List Char) : Option (List Char × List Char) :=
  longString quote escapes (cs.length + 1) ((nextLine? cs).getD cs)

def string? (cs : List Char) : Option (String × List Char) :=
  let r := match cs with
    | '"' :: '"' :: '"' :: rest => longStringOf '"' true rest
    | '\'' :: '\'' :: '\'' :: rest => longStringOf '\'' false rest
    | '"' :: rest => basicString (rest.length + 1) rest
    | '\'' :: rest => literalString rest
    | _ => none
  r.map fun r => (String.ofList r.1, r.2)

def isKeyChar (c : Char) : Bool := c.isAlphanum || c = '-' || c = '_'

/-- A key, with or without quotes. -/
def key? (cs : List Char) : Option (String × List Char) :=
  let r := match cs with
    | '"' :: rest => basicString (rest.length + 1) rest
    | '\'' :: rest => literalString rest
    | cs => if (cs.takeWhile isKeyChar).isEmpty then none else some (cs.takeWhile isKeyChar, cs.dropWhile isKeyChar)
  r.map fun r => (String.ofList r.1, r.2)

/-- Keys with dots between them: those before the last one, and the last one. -/
def keyPath : (most : Nat) → Reader (List String × String)
  | 0, _ => none
  | most + 1, cs => do
    let (key, cs) ← key? (dropBlanks cs)
    match dropBlanks cs with
    | '.' :: rest =>
      let ((path, last), rest) ← keyPath most rest
      return ((key :: path, last), rest)
    | rest => return (([], key), rest)

def path? : Reader (List String × String) := keyPath maxDepth

end AttributeRelease.Toml
