import AttributeRelease.Config.Settings
import AttributeRelease.Pairwise.Store

/-!
Stores and what belongs to them, made from settings. There must be a salt. The first identifier of a
pair is computed, and so is the fallback, with the same salt: both are the same identifier.
-/

namespace AttributeRelease.Pairwise

open Config (PairwiseSettings)

def Generator.ofSettings (s : PairwiseSettings) : Except StoreError Generator :=
  match s.salt.filter (!·.bytes.isEmpty) with
  | none => .error ⟨.fatal, "pairwise salt is not configured"⟩
  | some salt => .ok { salt, algorithm := s.algorithm, encoding := s.encoding }

def RetryPolicy.ofSettings (s : PairwiseSettings) : RetryPolicy where
  maxAttempts := max 1 s.maxAttempts
  baseDelay := s.baseDelay
  maxDelay := s.maxDelay
  factor := 2.0
  jitter := true
  retryable := [.connectivity, .lockTimeout]

def Store.ofSettings (s : PairwiseSettings) : Except StoreError Store :=
  (Generator.ofSettings s).map fun g =>
    { initial := .computed g
      retry := .ofSettings s
      fallback := if s.fallsBack then some g else none }

end AttributeRelease.Pairwise
