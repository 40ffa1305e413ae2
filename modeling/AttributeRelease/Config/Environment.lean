import AttributeRelease.Config.Error
import AttributeRelease.Text.Lowercase
import AttributeRelease.Text.Numeral

/-!
The layer that environment variables give. An empty variable counts as not set. All three sections are
always there, and the first variable with a value it cannot have decides the error.
-/

namespace AttributeRelease.Config

open AttributeRelease.Pairwise (DigestAlgorithm IdEncoding Salt)

abbrev Environment := String → Option String

namespace Environment

/-- The value of a variable that is set and not empty. -/
def value? (env : Environment) (key : String) : Option String := (env key).filter (· ≠ "")

/-- A variable that says yes or no; what is neither `true` nor `1` says no. -/
def flag? (env : Environment) (key : String) : Option Bool :=
  (env.value? key).map fun v => Text.lowercaseLatin v = "true" || v = "1"

/-- A variable whose value has to be read. -/
def read? {α : Type} (env : Environment) (key : String) (read : String → Except String α) :
    Except ConfigError (Option α) :=
  match env.value? key with
  | none => .ok none
  | some v =>
    match read v with
    | .ok a => .ok (some a)
    | .error reason => .error (.invalidValue key s!"invalid value '{v}': {reason}")

def number? (env : Environment) (key : String) (limit : Nat) : Except ConfigError (Option Nat) :=
  env.read? key fun v => (Text.readNumeral limit v).mapError Text.NumeralError.message

def maxAttempts : Nat := 0xFFFFFFFF

/-- The largest of all other numbers. -/
def maxNumber : Nat := 0xFFFFFFFFFFFFFFFF

def resolverLayer (env : Environment) : Except ConfigError ResolverLayer := do
  return {
    maxFetches := ← env.number? "LOOM_ATTR_RESOLVER_MAX_CONCURRENT_FETCHES" maxNumber
    fetchTimeout := ← env.number? "LOOM_ATTR_RESOLVER_FETCH_TIMEOUT_MS" maxNumber }

def pairwiseLayer (env : Environment) : Except ConfigError PairwiseLayer := do
  return {
    databaseUrl := env.value? "LOOM_ATTR_PAIRWISE_DATABASE_URL"
    algorithm := ← env.read? "LOOM_ATTR_PAIRWISE_ALGORITHM" DigestAlgorithm.ofName
    encoding := ← env.read? "LOOM_ATTR_PAIRWISE_ENCODING" IdEncoding.ofName
    maxAttempts := ← env.number? "LOOM_ATTR_PAIRWISE_MAX_ATTEMPTS" maxAttempts
    baseDelay := ← env.number? "LOOM_ATTR_PAIRWISE_BASE_DELAY_MS" maxNumber
    maxDelay := ← env.number? "LOOM_ATTR_PAIRWISE_MAX_DELAY_MS" maxNumber
    fallsBack := env.flag? "LOOM_ATTR_PAIRWISE_FALLBACK_TO_COMPUTED" }

def loggingLayer (env : Environment) : LoggingLayer where
  level := env.value? "LOOM_ATTR_LOG_LEVEL"
  json := env.flag? "LOOM_ATTR_LOG_JSON"

def layer (env : Environment) : Except ConfigError Layer := do
  return {
    resolver := some (← env.resolverLayer)
    pairwise := some (← env.pairwiseLayer)
    logging := some env.loggingLayer }

def salt? (env : Environment) : Option Salt := (env.value? saltVariable).map .ofString

end Environment

end AttributeRelease.Config
