import AttributeRelease.Config.Settings
import AttributeRelease.Json.Basic
import AttributeRelease.Pairwise.Settings

/-!
The JSON form of layers and settings. The fields are called as in configuration files. A field that a
layer leaves open is `null`, and of a salt only the length is shown.
-/

namespace AttributeRelease.Config

def ResolverLayer.toJson (l : ResolverLayer) : Json :=
  .ofMembers [("max_concurrent_fetches", .ofOption .ofNat l.maxFetches),
    ("fetch_timeout_ms", .ofOption .ofNat l.fetchTimeout)]

def PairwiseLayer.toJson (l : PairwiseLayer) : Json :=
  .ofMembers [("database_url", .ofOption .string l.databaseUrl),
    ("algorithm", .ofOption (.string ·.name) l.algorithm),
    ("encoding", .ofOption (.string ·.name) l.encoding),
    ("max_attempts", .ofOption .ofNat l.maxAttempts), ("base_delay_ms", .ofOption .ofNat l.baseDelay),
    ("max_delay_ms", .ofOption .ofNat l.maxDelay), ("fallback_to_computed", .ofOption .bool l.fallsBack)]

def LoggingLayer.toJson (l : LoggingLayer) : Json :=
  .ofMembers [("level", .ofOption .string l.level), ("json", .ofOption .bool l.json)]

def Layer.toJson (l : Layer) : Json :=
  .ofMembers [("resolver", .ofOption ResolverLayer.toJson l.resolver),
    ("pairwise", .ofOption PairwiseLayer.toJson l.pairwise),
    ("logging", .ofOption LoggingLayer.toJson l.logging)]

def PairwiseSettings.toJson (s : PairwiseSettings) : Json :=
  .ofMembers [("database_url", .string s.databaseUrl), ("algorithm", .string s.algorithm.name),
    ("encoding", .string s.encoding.name), ("max_attempts", .ofNat s.maxAttempts),
    ("base_delay_ms", .ofNat s.baseDelay), ("max_delay_ms", .ofNat s.maxDelay),
    ("fallback_to_computed", .bool s.fallsBack), ("salt", .ofOption (.string ·.redacted) s.salt)]

def retryToJson (p : Pairwise.RetryPolicy) : Json :=
  .ofMembers [("max_attempts", .ofNat p.maxAttempts), ("base_delay_ms", .ofNat p.baseDelay),
    ("max_delay_ms", .ofNat p.maxDelay), ("jitter", .bool p.jitter),
    ("retryable_kinds", .array (p.retryable.map (.string ·.name)))]

/-- The JSON form of all settings, with the retry policy they lead to. -/
def Settings.toJson (s : Settings) : Json :=
  .ofMembers
    [("resolver", .ofMembers [("max_concurrent_fetches", .ofNat s.resolver.maxFetches),
        ("fetch_timeout_ms", .ofNat s.resolver.fetchTimeout)]),
      ("pairwise", s.pairwise.toJson),
      ("logging", .ofMembers [("level", .string s.logging.level), ("json", .bool s.logging.json)]),
      ("retry", retryToJson (.ofSettings s.pairwise))]

end AttributeRelease.Config
