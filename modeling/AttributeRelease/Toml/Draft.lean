import AttributeRelease.Toml.Basic

/-!
Tables while a document is read. A table can come about by its own header, by the header of a table
inside it, or by a dotted key. Nothing may be said twice: a header makes only tables that are not there
or were implied so far, dotted keys extend only tables that dotted keys made, and no value is replaced.
-/

namespace AttributeRelease.Toml

/-- How a table came about. -/
inductive Origin where
  | header
  | implied
  | dotted
  deriving DecidableEq, Repr

/-- What a key stands for so far. -/
inductive Draft where
  | value (v : Toml)
  | table (origin : Origin) (entries : List (String × Draft))
  /-- The tables under one header, latest first. -/
  | tables (elements : List (List (String × Draft)))

namespace Draft

abbrev Entries := List (String × Draft)

/-- Makes or changes the entry of a key, unless `f` forbids it. -/
def alter (key : String) (f : Option Draft → Option Draft) : Entries → Option Entries
  | [] => (f none).map fun d => [(key, d)]
  | (k, d) :: rest =>
    if k = key then (f (some d)).map fun d => (k, d) :: rest
    else (alter key f rest).map ((k, d) :: ·)

/--
Changes the table at the end of a path. Missing tables on the way are made, and of tables under one
header the latest counts. A dotted path does not lead through tables that have a header.
-/
def within (dotted : Bool) (f : Origin → Entries → Option Entries) :
    (path : List String) → Origin → Entries → Option Entries
  | [], origin, entries => f origin entries
  | key :: path, _, entries => alter key
    (fun
      | none =>
        let origin := if dotted then .dotted else .implied
        (within dotted f path origin []).map (.table origin)
      | some (.table origin entries) =>
        if dotted && origin = .header then none else (within dotted f path origin entries).map (.table origin)
      | some (.tables (latest :: others)) =>
        (within dotted f path .header latest).map fun entries => .tables (entries :: others)
      | some (.tables []) | some (.value _) => none) entries

/-- Gives a key inside a table a value. -/
def assign (path : List String) (key : String) (v : Toml) (entries : Entries) : Option Entries :=
  within true
    (fun origin entries =>
      if path.isEmpty || origin = .dotted then
        alter key
          (fun
            | none => some (.value v)
            | some _ => none) entries
      else none) path .header entries

def openTable (path : List String) (key : String) (root : Entries) : Option Entries :=
  within false
    (fun _ entries => alter key
      (fun
        | none => some (.table .header [])
        | some (.table .implied entries) => some (.table .header entries)
        | some _ => none) entries) path .header root

/-- One more table under a header. -/
def openElement (path : List String) (key : String) (root : Entries) : Option Entries :=
  within false
    (fun _ entries => alter key
      (fun
        | none => some (.tables [[]])
        | some (.tables elements) => some (.tables ([] :: elements))
        | some _ => none) entries) path .header root

mutual

def toToml : Draft → Toml
  | .value v => v
  | .table _ entries => .table (entriesToToml entries)
  | .tables elements => .array (elementsToToml elements).reverse

def entriesToToml : List (String × Draft) → List (String × Toml)
  | [] => []
  | (key, d) :: rest => (key, toToml d) :: entriesToToml rest

def elementsToToml : List (List (String × Draft)) → List Toml
  | [] => []
  | entries :: rest => .table (entriesToToml entries) :: elementsToToml rest

end

end Draft

end AttributeRelease.Toml
