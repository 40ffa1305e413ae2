import AttributeRelease.Pairwise.Computed

/-!
Layers of configuration. A layer sets some fields and leaves others open; laid over another one, it
counts wherever it sets a field.
-/

namespace AttributeRelease.Config

open AttributeRelease.Pairwise (DigestAlgorithm IdEncoding)

/-- What a layer says about resolvers. Times are in milliseconds. -/
structure ResolverLayer where
  maxFetches : Option Nat := none
  fetchTimeout : Option Nat := none
  deriving DecidableEq, Repr

/-- What a layer says about pairwise identifiers. -/
structure PairwiseLayer where
  databaseUrl : Option String := none
  algorithm : Option DigestAlgorithm := none
  encoding : Option IdEncoding := none
  maxAttempts : Option Nat := none
  baseDelay : Option Nat := none
  maxDelay : Option Nat := none
  fallsBack : Option Bool := none
  deriving DecidableEq, Repr

/-- What a layer says about log output. -/
structure LoggingLayer where
  level : Option String := none
  json : Option Bool := none
  deriving DecidableEq, Repr

/-- A layer; a section may be there without setting anything. -/
structure Layer where
  resolver : Option ResolverLayer := none
  pairwise : Option PairwiseLayer := none
  logging : Option LoggingLayer := none
  deriving DecidableEq, Repr

def ResolverLayer.overlay (base top : ResolverLayer) : ResolverLayer where
  maxFetches := top.maxFetches.or base.maxFetches
  fetchTimeout := top.fetchTimeout.or base.fetchTimeout

def PairwiseLayer.overlay (base top : PairwiseLayer) : PairwiseLayer where
  databaseUrl := top.databaseUrl.or base.databaseUrl
  algorithm := top.algorithm.or base.algorithm
  encoding := top.encoding.or base.encoding
  maxAttempts := top.maxAttempts.or base.maxAttempts
  baseDelay := top.baseDelay.or base.baseDelay
  maxDelay := top.maxDelay.or base.maxDelay
  fallsBack := top.fallsBack.or base.fallsBack

def LoggingLayer.overlay (base top : LoggingLayer) : LoggingLayer where
  level := top.level.or base.level
  json := top.json.or base.json

/-- Lays a section, if there is one, over another one, if there is one. -/
def overlaySection {α : Type} (overlay : α → α → α) : Option α → Option α → Option α
  | some base, some top => some (overlay base top)
  | base, top => top.or base

def Layer.overlay (base top : Layer) : Layer where
  resolver := overlaySection ResolverLayer.overlay base.resolver top.resolver
  pairwise := overlaySection PairwiseLayer.overlay base.pairwise top.pairwise
  logging := overlaySection LoggingLayer.overlay base.logging top.logging

end AttributeRelease.Config
