import AttributeRelease.Toml.Draft
import AttributeRelease.Toml.Number

/-!
Reading TOML documents: lines of keys with values, and headers of tables. A document with any fault in
it is no document.
-/

namespace AttributeRelease.Toml

/-- A value of one piece. What begins with a digit may be a moment or a number with or without a point. -/
def scalar (cs : List Char) : Option (Toml × List Char) :=
  match cs with
  | [] => none
  | c :: _ =>
    if c = '"' || c = '\'' then (string? cs).map fun r => (.string r.1, r.2)
    else if ['t', 'r', 'u', 'e'].isPrefixOf cs then some (.boolean true, cs.drop 4)
    else if ['f', 'a', 'l', 's', 'e'].isPrefixOf cs then some (.boolean false, cs.drop 5)
    else (((moment? cs).or (decimal? cs)).or (special? cs)).or (integer? cs)

/-- The items of an array after its opening bracket. -/
def arrayItems (value : Reader Toml) : (fuel : Nat) → Reader (List Toml)
  | 0, _ => none
  | fuel + 1, cs => do
    match ← dropLines? cs with
    | ']' :: rest => return ([], rest)
    | cs =>
      let (v, cs) ← value cs
      match ← dropLines? cs with
      | ']' :: rest => return ([v], rest)
      | ',' :: rest =>
        let (vs, rest) ← arrayItems value fuel rest
        return (v :: vs, rest)
      | _ => none

/-- A key with its value, put into a table. -/
def keyValue (value : Reader Toml) (entries : Draft.Entries) (cs : List Char) :
    Option (Draft.Entries × List Char) := do
  let ((path, key), cs) ← path? cs
  let (v, rest) ← value (dropBlanks (← expect '=' cs))
  return (← Draft.assign path key v entries, rest)

/-- The rest of a table on one line, after an opening brace or a comma; `entries` are there so far. -/
def tableEntries (value : Reader Toml) : (fuel : Nat) → Draft.Entries → Reader (List (String × Toml))
  | 0, _, _ => none
  | fuel + 1, entries, cs => do
    let (entries, cs) ← keyValue value entries cs
    match dropBlanks cs with
    | '\x7d' :: rest => return (Draft.entriesToToml entries, rest)
    | ',' :: rest => tableEntries value fuel entries rest
    | _ => none

/-- A value; arrays and tables may be nested so many levels deep. -/
def value : (levels : Nat) → Reader Toml
  | 0, cs => scalar cs
  | levels + 1, cs =>
    match cs with
    | '[' :: rest => (arrayItems (value levels) (rest.length + 1) rest).map fun r => (.array r.1, r.2)
    | '\x7b' :: rest =>
      match dropBlanks rest with
      | '\x7d' :: rest => some (.table [], rest)
      | rest => (tableEntries (value levels) (rest.length + 1) [] rest).map fun r => (.table r.1, r.2)
    | cs => scalar cs

/-- A document while it is read: what was said so far, and the header that holds. -/
structure State where
  root : Draft.Entries := []
  header : List String := []

namespace State

def readHeader (closing : List Char) (enter : List String → String → Draft.Entries → Option Draft.Entries)
    (s : State) (cs : List Char) : Option (State × List Char) := do
  let ((path, key), cs) ← path? cs
  if closing.isPrefixOf cs then
    return ({ root := ← enter path key s.root, header := path ++ [key] }, cs.drop closing.length)
  else none

/-- A key with its value under the header that holds. -/
def readKeyValue (s : State) (cs : List Char) : Option (State × List Char) := do
  let ((path, key), cs) ← path? cs
  let (v, rest) ← value maxDepth (dropBlanks (← expect '=' cs))
  let root ← Draft.within false (fun _ entries => Draft.assign path key v entries) s.header .header s.root
  return ({ s with root }, rest)

/-- What a line says, without the end of the line. -/
def readLine (s : State) (cs : List Char) : Option (State × List Char) :=
  match cs with
  | [] => some (s, [])
  | '[' :: '[' :: rest => s.readHeader [']', ']'] Draft.openElement rest
  | '[' :: rest => s.readHeader [']'] Draft.openTable rest
  | c :: rest =>
    if c = '#' || c = '\n' || c = '\r' then some (s, c :: rest) else s.readKeyValue (c :: rest)

def readLines : (fuel : Nat) → State → List Char → Option State
  | 0, _, _ => none
  | _ + 1, s, [] => some s
  | fuel + 1, s, cs => do
    let (s, cs) ← s.readLine (dropBlanks cs)
    readLines fuel s (← endLine? cs)

end State

/-- The table that a document stands for. A byte order mark may stand before it. -/
def ofText? (text : String) : Option (List (String × Toml)) :=
  let cs := match text.toList with
    | '\ufeff' :: rest => rest
    | cs => cs
  (State.readLines (cs.length + 1) {} cs).map fun s => Draft.entriesToToml s.root

end AttributeRelease.Toml
