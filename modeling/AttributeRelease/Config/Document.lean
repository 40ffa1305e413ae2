import AttributeRelease.Config.Error
import AttributeRelease.Config.Environment
import AttributeRelease.Toml.Reader

/-!
Layers written as TOML documents. What a document says besides is passed over. A section is a table; an
array is taken for the fields in their order, and a moment of time for a section without fields.
-/

namespace AttributeRelease.Config

open AttributeRelease.Pairwise (DigestAlgorithm IdEncoding)

namespace Document

/-- The fields of a section, by place and name. -/
abbrev Fields := Nat → String → Option Toml

/-- The fields of what stands for a section. -/
def fields? : Toml → Option Fields
  | .table entries => some fun _ name => entries.lookup name
  | .array items => some fun place _ => items[place]?
  | .moment _ => some fun _ _ => none
  | .string _ | .integer _ | .float _ | .boolean _ => none

/-- A field, which may be missing but must not have another form. -/
def field? {α : Type} (fields : Fields) (place : Nat) (name : String) (read : Toml → Option α) :
    Option (Option α) :=
  match fields place name with
  | none => some none
  | some v => (read v).map some

def text? : Toml → Option String
  | .string s => some s
  | _ => none

def flag? : Toml → Option Bool
  | .boolean b => some b
  | _ => none

/-- A number from zero to a limit. -/
def number? (limit : Nat) : Toml → Option Nat
  | .integer (.ofNat n) => if n ≤ limit then some n else none
  | _ => none

/-- One of some names; a table with nothing but an empty table or array under the name will do. -/
def choice? {α : Type} (choices : List α) (name : α → String) (v : Toml) : Option α :=
  let chosen := match v with
    | .string s => some s
    | .table [(s, .table [])] | .table [(s, .array [])] => some s
    | _ => none
  chosen.bind fun s => choices.find? (name · = s)

def resolver? (v : Toml) : Option ResolverLayer := do
  let fields ← fields? v
  return {
    maxFetches := ← field? fields 0 "max_concurrent_fetches" (number? Environment.maxNumber)
    fetchTimeout := ← field? fields 1 "fetch_timeout_ms" (number? Environment.maxNumber) }

def pairwise? (v : Toml) : Option PairwiseLayer := do
  let fields ← fields? v
  return {
    databaseUrl := ← field? fields 0 "database_url" text?
    algorithm := ← field? fields 1 "algorithm" (choice? [.sha256, .sha512] DigestAlgorithm.name)
    encoding := ← field? fields 2 "encoding" (choice? [.base64, .hex] IdEncoding.name)
    maxAttempts := ← field? fields 3 "max_attempts" (number? Environment.maxAttempts)
    baseDelay := ← field? fields 4 "base_delay_ms" (number? Environment.maxNumber)
    maxDelay := ← field? fields 5 "max_delay_ms" (number? Environment.maxNumber)
    fallsBack := ← field? fields 6 "fallback_to_computed" flag? }

def logging? (v : Toml) : Option LoggingLayer := do
  let fields ← fields? v
  return {
    level := ← field? fields 0 "level" text?
    json := ← field? fields 1 "json" flag? }

def layer? (text : String) : Option Layer := do
  let entries ← Toml.ofText? text
  let fields : Fields := fun _ name => entries.lookup name
  return {
    resolver := ← field? fields 0 "resolver" resolver?
    pairwise := ← field? fields 1 "pairwise" pairwise?
    logging := ← field? fields 2 "logging" logging? }

end Document

end AttributeRelease.Config
