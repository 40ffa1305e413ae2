import AttributeRelease.Config.Error
import AttributeRelease.Filter.Error
import AttributeRelease.Graph.Basic
import AttributeRelease.Json.Basic
import AttributeRelease.Resolver.Error

/-!
The JSON form of errors: a word for the kind, and the message where it says more than the kind does.
-/

namespace AttributeRelease

def Form.errorJson (kind message : String) : Json :=
  .object [("error", .string kind), ("message", .string message)]

def FilterError.toJson (e : FilterError) : Json :=
  match e with
  | .invalidPattern pattern _ => .object [("error", .string "InvalidRegex"), ("pattern", .string pattern)]
  | .duplicatePolicy _ => Form.errorJson "DuplicatePolicy" e.message
  | .matcher .. => Form.errorJson "Matcher" e.message

def DefinitionError.kind : DefinitionError → String
  | .invalidConfiguration _ | .invalidPattern .. => "InvalidConfig"
  | .unusableValue .. => "InvalidValue"
  | .mismatchedCounts _ => "Mismatch"

/-- The JSON form of an error; why a pattern is refused is not told. -/
def DefinitionError.toJson (e : DefinitionError) : Json :=
  match e with
  | .invalidPattern pattern _ => Form.errorJson e.kind s!"invalid pattern '{pattern}'"
  | .invalidConfiguration _ | .unusableValue .. | .mismatchedCounts _ => Form.errorJson e.kind e.message

def ConnectorError.kind : ConnectorError → String
  | .backend _ => "Backend"
  | .timeout _ => "Timeout"
  | .missingInput _ => "MissingInput"
  | .invalidInput _ => "InvalidInput"
  | .store _ => "Store"

def Pairwise.StoreError.toJson (e : Pairwise.StoreError) : Json := Form.errorJson e.kind.name e.message

def GraphError.kind : GraphError → String
  | .duplicateId _ => "DuplicateId"
  | .unknownDependency .. => "UnknownDependency"
  | .unknownFailover .. => "UnknownFailover"
  | .failoverNotConnector .. => "FailoverNotConnector"
  | .cycle _ => "Cycle"

def GraphError.toJson (e : GraphError) : Json := Form.errorJson e.kind e.message

/-- The JSON form of an error, with the kind of the cause. -/
def ResolutionError.toJson (e : ResolutionError) : Json :=
  let kind := match e with
    | .unknownNode _ => [("error", .string "UnknownNode")]
    | .connector _ source => [("error", .string "Connector"), ("source", .string source.kind)]
    | .definition _ source => [("error", .string "Definition"), ("source", .string source.kind)]
  .ofMembers (("message", .string e.message) :: kind)

namespace Config

def FileFailure.Kind.name : FileFailure.Kind → String
  | .notFound => "NotFound"
  | .isDirectory => "IsADirectory"
  | .invalidData => "InvalidData"
  | .other name => name

def ConfigError.toJson (e : ConfigError) : Json :=
  match e with
  | .file _ failure => .object [("error", .string "FileRead"), ("io", .string failure.kind.name)]
  | .form .. => .object [("error", .string "TomlParse")]
  | .invalidValue .. => Form.errorJson "InvalidValue" e.message
  | .invalid _ => Form.errorJson "Validation" e.message

end Config

end AttributeRelease
