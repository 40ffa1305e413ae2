import AttributeRelease.Config.Settings

/-!
Failures to get at a configuration.
-/

namespace AttributeRelease.Config

/-- The kinds of failures to read a file. -/
inductive FileFailure.Kind where
  | notFound
  | isDirectory
  /-- The bytes are no UTF-8. -/
  | invalidData
  | other (name : String)
  deriving DecidableEq, Repr

/-- Why a file cannot be read, and in what words. -/
structure FileFailure where
  kind : FileFailure.Kind
  reason : String
  deriving DecidableEq, Repr

/-- There are bytes, but they are no text. -/
def FileFailure.noText : FileFailure := ⟨.invalidData, "stream did not contain valid UTF-8"⟩

/-- Why there is no configuration. -/
inductive ConfigError where
  | file (path : String) (failure : FileFailure)
  /-- A file does not have the form of a layer. -/
  | form (path complaint : String)
  /-- A variable has a value that it cannot have. -/
  | invalidValue (key reason : String)
  | invalid (fault : Fault)
  deriving DecidableEq, Repr

def ConfigError.message : ConfigError → String
  | .file path failure => s!"failed to read config file {path}: {failure.reason}"
  | .form path complaint => s!"failed to parse config file {path}: {complaint}"
  | .invalidValue key reason => s!"invalid value for {key}: {reason}"
  | .invalid fault => s!"configuration validation failed: {fault.message}"

end AttributeRelease.Config
