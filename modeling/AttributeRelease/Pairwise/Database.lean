import AttributeRelease.Bytes.Percent
import AttributeRelease.Pairwise.Error

/-!
Databases that hold identifiers: where they are and how they fail. An address is a path, perhaps behind
`sqlite:`, and options behind a question mark. A failure matters only by its kind.
-/

namespace AttributeRelease.Pairwise

/-- A failure as a database reports it. -/
inductive DatabaseFailure where
  /-- A rule of uniqueness was violated. -/
  | uniqueness
  /-- Any other answer of the database, with its code. -/
  | code (n : Nat)
  /-- No connection became free in time. -/
  | noConnection
  | transport
  | encryption
  | other
  deriving DecidableEq, Repr

namespace DatabaseFailure

/-- The codes of a database that is busy or locked. -/
def lockCodes : List Nat := [5, 6, 261, 262, 517, 518, 773]

def kind : DatabaseFailure → ErrorKind
  | .uniqueness => .duplicate
  | .code n => if n ∈ lockCodes then .lockTimeout else .fatal
  | .noConnection | .transport | .encryption => .connectivity
  | .other => .fatal

end DatabaseFailure

/-- Where a database is. A file without a path is one of its own that nobody else finds. -/
inductive DatabasePlace where
  | memory
  | file (path : String) (readOnly : Bool)
  deriving DecidableEq, Repr

/-- The address of a database. It may name the file system to use; a name that cannot be read is no name. -/
structure DatabaseAddress where
  place : DatabasePlace
  fileSystem : Option (Option String) := none
  deriving DecidableEq, Repr

namespace DatabaseAddress

/-- Leaves out a text at the beginning, as often as it stands there. -/
def dropLeading (lead : List Char) (chars : List Char) : List Char :=
  if _h : lead ≠ [] ∧ lead.isPrefixOf chars then dropLeading lead (chars.drop lead.length) else chars
termination_by chars.length
decreasing_by
  have hl : lead.length ≤ chars.length := (List.isPrefixOf_iff_prefix.1 _h.2).length_le
  have h0 : 0 < lead.length := List.length_pos_iff.2 _h.1
  rw [List.length_drop]
  omega

/-- An option in plain text: a plus sign stands for a blank, and percent signs for bytes. -/
def plain? (chars : List Char) : Option String :=
  let bytes := (String.ofList chars).toUTF8.toList.map fun b => if b = 43 then 32 else b
  Bytes.toText? (Bytes.decodePercent bytes)

def options (chars : List Char) : List (Option String × Option String) :=
  let parts := (chars.splitOn '&').filter (!·.isEmpty)
  parts.map fun part => (plain? (part.takeWhile (· ≠ '=')), plain? ((part.dropWhile (· ≠ '=')).drop 1))

/-- Takes an option into account, unless it is unknown. -/
def apply (a : DatabaseAddress) (option : Option String × Option String) : Option DatabaseAddress :=
  match option, a.place with
  | (some "mode", some "memory"), _ => some { a with place := .memory }
  | (some "mode", some "ro"), .file path _ => some { a with place := .file path true }
  | (some "mode", some "ro"), .memory => some a
  | (some "mode", some "rw"), _ | (some "mode", some "rwc"), _ => some a
  | (some "cache", some "private"), _ | (some "cache", some "shared"), _ => some a
  | (some "immutable", some "true"), _ | (some "immutable", some "1"), _ => some a
  | (some "immutable", some "false"), _ | (some "immutable", some "0"), _ => some a
  | (some "vfs", name), _ => some { a with fileSystem := some name }
  | _, _ => none

def ofPath? (path : List Char) : Option DatabaseAddress :=
  if path = ":memory:".toList then some { place := .memory }
  else
    let bytes := Bytes.decodePercent (String.ofList path).toUTF8.toList
    (Bytes.toText? bytes).map fun path => { place := .file path false }

def ofText? (text : String) : Option DatabaseAddress :=
  let chars := dropLeading "sqlite:".toList (dropLeading "sqlite://".toList text.toList)
  let path := chars.takeWhile (· ≠ '?')
  (ofPath? path).bind fun a => (options ((chars.dropWhile (· ≠ '?')).drop 1)).foldlM apply a

/-- The file system that keeps files in memory. -/
def memoryFiles : String := "memdb"

def fileSystems : List String := ["unix", "unix-dotfile", "unix-excl", "unix-none", memoryFiles]

/-- Whether a database can be opened, given which files can be made. A file is never made for reading only. -/
def isReachable (canMake : String → Bool) (a : DatabaseAddress) : Bool :=
  match a.fileSystem, a.place with
  | some none, _ => false
  | some (some name), .file path readOnly =>
    name = memoryFiles || (fileSystems.contains name && (path = "" || (canMake path && !readOnly)))
  | some (some name), .memory => fileSystems.contains name
  | none, .file path readOnly => path = "" || (canMake path && !readOnly)
  | none, .memory => true

end DatabaseAddress

end AttributeRelease.Pairwise
