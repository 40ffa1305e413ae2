import AttributeRelease.Config.Document

/-!
Where layers come from: files and the environment of a host. Sources are read in order, each over those before
it; the first one that cannot be read decides the error. An optional file may be missing.
-/

namespace AttributeRelease.Config

/-- What is found where a file should be. -/
inductive File where
  | content (bytes : List UInt8)
  | unreadable (failure : FileFailure)
  deriving DecidableEq, Repr

/-- Where configurations are read. -/
structure Host where
  environment : Environment
  /-- What is found at a path. -/
  file : String → File
  /-- In what words a text is refused that does not have the form of a layer. -/
  complaint : String → String

/-- The text of a file. -/
def Host.read (host : Host) (path : String) : Except FileFailure String :=
  match host.file path with
  | .unreadable failure => .error failure
  | .content bytes =>
    match String.fromUTF8? ⟨bytes.toArray⟩ with
    | none => .error .noText
    | some text => .ok text

/-- A source of a layer. -/
inductive Source where
  | file (path : String) (required : Bool)
  | environment
  deriving DecidableEq, Repr

namespace Source

/-- Where the file for the whole system is. -/
def systemPath : String := "/etc/loom/attr.toml"

/-- The file for the whole system, which may be missing. -/
def system : Source := .file systemPath false

def load (host : Host) : Source → Except ConfigError Layer
  | .environment => host.environment.layer
  | .file path required =>
    match host.read path with
    | .error failure =>
      if failure.kind = .notFound ∧ required = false then .ok {} else .error (.file path failure)
    | .ok text =>
      match Document.layer? text with
      | some layer => .ok layer
      | none => .error (.form path (host.complaint text))

end Source

def settings (layer : Layer) (salt : Option Pairwise.Salt) : Except ConfigError Settings :=
  let s := layer.settings salt
  match s.fault? with
  | some fault => .error (.invalid fault)
  | none => .ok s

def loadLayers (host : Host) (sources : List Source) : Except ConfigError Layer :=
  sources.foldlM (fun merged source => return merged.overlay (← source.load host)) {}

def load (host : Host) (sources : List Source) : Except ConfigError Settings := do
  settings (← loadLayers host sources) host.environment.salt?

/-- The settings when only the environment is asked. -/
def loadEnvironment (host : Host) : Except ConfigError Settings := load host [.environment]

/-- The settings of a file that must be there, and of the environment. -/
def loadWithFile (host : Host) (path : String) : Except ConfigError Settings :=
  load host [.file path true, .environment]

/-- The settings of the file for the whole system, if it is there, and of the environment. -/
def loadSystem (host : Host) : Except ConfigError Settings := load host [.system, .environment]

end AttributeRelease.Config
