import AttributeRelease.Config.Layer

/-!
Complete settings: what all layers together say, defaults for the rest, and the salt, which comes from
elsewhere. Settings that cannot work are refused.
-/

namespace AttributeRelease.Config

open AttributeRelease.Pairwise (DigestAlgorithm IdEncoding Salt)

/-- The settings of resolvers. Times are in milliseconds. -/
structure ResolverSettings where
  maxFetches : Nat := 16
  fetchTimeout : Nat := 5000
  deriving DecidableEq, Repr

/-- The settings of pairwise identifiers. -/
structure PairwiseSettings where
  databaseUrl : String := "sqlite:./pairwise.db"
  algorithm : DigestAlgorithm := .sha256
  encoding : IdEncoding := .base64
  maxAttempts : Nat := 3
  baseDelay : Nat := 50
  maxDelay : Nat := 2000
  /-- Whether computed identifiers are given out while the store stays out of reach. -/
  fallsBack : Bool := false
  salt : Option Salt := none
  deriving DecidableEq

/-- The settings of log output. -/
structure LoggingSettings where
  level : String := "info"
  json : Bool := false
  deriving DecidableEq, Repr

/-- All settings. -/
structure Settings where
  resolver : ResolverSettings := {}
  pairwise : PairwiseSettings := {}
  logging : LoggingSettings := {}
  deriving DecidableEq

/-- What is wrong with settings. -/
inductive Fault where
  | noFetches
  | noAttempts
  | delaysCross
  | shortSalt
  deriving DecidableEq, Repr

def saltVariable : String := "LOOM_ATTR_PAIRWISE_SALT"

def minSaltLength : Nat := 16

def Fault.message : Fault → String
  | .noFetches => "resolver.max_concurrent_fetches must be at least 1"
  | .noAttempts => "pairwise.max_attempts must be at least 1"
  | .delaysCross => "pairwise.base_delay_ms must not exceed pairwise.max_delay_ms"
  | .shortSalt => s!"{saltVariable} must be at least {minSaltLength} bytes"

def ResolverLayer.settings (l : ResolverLayer) : ResolverSettings :=
  let defaults : ResolverSettings := {}
  { maxFetches := l.maxFetches.getD defaults.maxFetches
    fetchTimeout := l.fetchTimeout.getD defaults.fetchTimeout }

/-- Completes a section by the defaults and the salt. -/
def PairwiseLayer.settings (l : PairwiseLayer) (salt : Option Salt) : PairwiseSettings :=
  let defaults : PairwiseSettings := {}
  { databaseUrl := l.databaseUrl.getD defaults.databaseUrl
    algorithm := l.algorithm.getD defaults.algorithm
    encoding := l.encoding.getD defaults.encoding
    maxAttempts := l.maxAttempts.getD defaults.maxAttempts
    baseDelay := l.baseDelay.getD defaults.baseDelay
    maxDelay := l.maxDelay.getD defaults.maxDelay
    fallsBack := l.fallsBack.getD defaults.fallsBack
    salt }

def LoggingLayer.settings (l : LoggingLayer) : LoggingSettings :=
  let defaults : LoggingSettings := {}
  { level := l.level.getD defaults.level
    json := l.json.getD defaults.json }

/-- Completes a layer by the defaults and the salt. -/
def Layer.settings (l : Layer) (salt : Option Salt) : Settings where
  resolver := (l.resolver.getD {}).settings
  pairwise := (l.pairwise.getD {}).settings salt
  logging := (l.logging.getD {}).settings

def Settings.fault? (s : Settings) : Option Fault :=
  if s.resolver.maxFetches = 0 then some .noFetches
  else if s.pairwise.maxAttempts = 0 then some .noAttempts
  else if s.pairwise.maxDelay < s.pairwise.baseDelay then some .delaysCross
  else if s.pairwise.salt.any (·.bytes.length < minSaltLength) then some .shortSalt
  else none

end AttributeRelease.Config
