import AttributeRelease.Config.Source
import AttributeRelease.Proofs.Fallible

/-!
The fields of settings one by one: where each stands in a layer, in settings, in documents and in the environment.
Laying one layer over another and completing a layer by the defaults are both done field by field, and a source that
can be read sets just the fields that it does not omit.
-/

namespace AttributeRelease.Config

open AttributeRelease.Pairwise (DigestAlgorithm IdEncoding Salt)

/-- The fields of settings, by the types of their values. -/
inductive Field : Type → Type
  | maxFetches : Field Nat
  | fetchTimeout : Field Nat
  | databaseUrl : Field String
  | algorithm : Field DigestAlgorithm
  | encoding : Field IdEncoding
  | maxAttempts : Field Nat
  | baseDelay : Field Nat
  | maxDelay : Field Nat
  | fallsBack : Field Bool
  | level : Field String
  | json : Field Bool

variable {α β : Type}

/-- What a layer sets a field to. -/
def Layer.get? (l : Layer) : Field α → Option α
  | .maxFetches => l.resolver.bind ResolverLayer.maxFetches
  | .fetchTimeout => l.resolver.bind ResolverLayer.fetchTimeout
  | .databaseUrl => l.pairwise.bind PairwiseLayer.databaseUrl
  | .algorithm => l.pairwise.bind PairwiseLayer.algorithm
  | .encoding => l.pairwise.bind PairwiseLayer.encoding
  | .maxAttempts => l.pairwise.bind PairwiseLayer.maxAttempts
  | .baseDelay => l.pairwise.bind PairwiseLayer.baseDelay
  | .maxDelay => l.pairwise.bind PairwiseLayer.maxDelay
  | .fallsBack => l.pairwise.bind PairwiseLayer.fallsBack
  | .level => l.logging.bind LoggingLayer.level
  | .json => l.logging.bind LoggingLayer.json

@[simp] theorem Layer.get?_empty (f : Field α) : ({} : Layer).get? f = none := by
  cases f <;> rfl

theorem bind_overlaySection {overlay : α → α → α} {get : α → Option β}
    (h : ∀ base top, get (overlay base top) = (get top).or (get base)) (base top : Option α) :
    (overlaySection overlay base top).bind get = (top.bind get).or (base.bind get) := by
  cases base <;> cases top <;> simp [overlaySection, h]

/-- A layer counts wherever it sets a field, the one below it elsewhere. -/
theorem Layer.get?_overlay (base top : Layer) (f : Field α) :
    (base.overlay top).get? f = (top.get? f).or (base.get? f) := by
  cases f <;> exact bind_overlaySection (fun _ _ => rfl) _ _

theorem ResolverLayer.overlay_assoc (a b c : ResolverLayer) :
    (a.overlay b).overlay c = a.overlay (b.overlay c) := by
  simp only [overlay, Option.or_assoc]

theorem PairwiseLayer.overlay_assoc (a b c : PairwiseLayer) :
    (a.overlay b).overlay c = a.overlay (b.overlay c) := by
  simp only [overlay, Option.or_assoc]

theorem LoggingLayer.overlay_assoc (a b c : LoggingLayer) :
    (a.overlay b).overlay c = a.overlay (b.overlay c) := by
  simp only [overlay, Option.or_assoc]

theorem overlaySection_assoc {overlay : α → α → α} (h : ∀ a b c, overlay (overlay a b) c = overlay a (overlay b c))
    (a b c : Option α) :
    overlaySection overlay (overlaySection overlay a b) c =
      overlaySection overlay a (overlaySection overlay b c) := by
  cases a <;> cases b <;> cases c <;> simp [overlaySection, h]

@[simp] theorem overlaySection_none (overlay : α → α → α) (base : Option α) :
    overlaySection overlay base none = base := by
  cases base <;> rfl

@[simp] theorem none_overlaySection (overlay : α → α → α) (top : Option α) :
    overlaySection overlay none top = top := by
  cases top <;> rfl

theorem Layer.overlay_assoc (a b c : Layer) : (a.overlay b).overlay c = a.overlay (b.overlay c) := by
  simp only [overlay, overlaySection_assoc ResolverLayer.overlay_assoc,
    overlaySection_assoc PairwiseLayer.overlay_assoc, overlaySection_assoc LoggingLayer.overlay_assoc]

@[simp] theorem Layer.overlay_empty (l : Layer) : l.overlay {} = l := by
  simp only [overlay, overlaySection_none]

@[simp] theorem Layer.empty_overlay (l : Layer) : ({} : Layer).overlay l = l := by
  simp only [overlay, none_overlaySection]

def Settings.get (s : Settings) : Field α → α
  | .maxFetches => s.resolver.maxFetches
  | .fetchTimeout => s.resolver.fetchTimeout
  | .databaseUrl => s.pairwise.databaseUrl
  | .algorithm => s.pairwise.algorithm
  | .encoding => s.pairwise.encoding
  | .maxAttempts => s.pairwise.maxAttempts
  | .baseDelay => s.pairwise.baseDelay
  | .maxDelay => s.pairwise.maxDelay
  | .fallsBack => s.pairwise.fallsBack
  | .level => s.logging.level
  | .json => s.logging.json

/-- The value of a field that nothing sets. -/
def Field.default (f : Field α) : α := ({} : Settings).get f

/-- The settings with these values. -/
def Settings.ofFields (v : {α : Type} → Field α → α) (salt : Option Salt) : Settings where
  resolver := { maxFetches := v .maxFetches, fetchTimeout := v .fetchTimeout }
  pairwise := {
    databaseUrl := v .databaseUrl
    algorithm := v .algorithm
    encoding := v .encoding
    maxAttempts := v .maxAttempts
    baseDelay := v .baseDelay
    maxDelay := v .maxDelay
    fallsBack := v .fallsBack
    salt }
  logging := { level := v .level, json := v .json }

@[simp] theorem Settings.get_ofFields (v : {α : Type} → Field α → α) (salt : Option Salt) (f : Field α) :
    (ofFields v salt).get f = v f := by
  cases f <;> rfl

/-- Every field of a completed layer has the value that the layer sets it to, or else its default. -/
theorem Layer.settings_eq (l : Layer) (salt : Option Salt) :
    l.settings salt = .ofFields (fun f => (l.get? f).getD f.default) salt := by
  obtain ⟨resolver, pairwise, logging⟩ := l
  cases resolver <;> cases pairwise <;> cases logging <;> rfl

namespace Field

/-- The variable of a field. -/
def variableName : Field α → String
  | maxFetches => "LOOM_ATTR_RESOLVER_MAX_CONCURRENT_FETCHES"
  | fetchTimeout => "LOOM_ATTR_RESOLVER_FETCH_TIMEOUT_MS"
  | databaseUrl => "LOOM_ATTR_PAIRWISE_DATABASE_URL"
  | algorithm => "LOOM_ATTR_PAIRWISE_ALGORITHM"
  | encoding => "LOOM_ATTR_PAIRWISE_ENCODING"
  | maxAttempts => "LOOM_ATTR_PAIRWISE_MAX_ATTEMPTS"
  | baseDelay => "LOOM_ATTR_PAIRWISE_BASE_DELAY_MS"
  | maxDelay => "LOOM_ATTR_PAIRWISE_MAX_DELAY_MS"
  | fallsBack => "LOOM_ATTR_PAIRWISE_FALLBACK_TO_COMPUTED"
  | level => "LOOM_ATTR_LOG_LEVEL"
  | json => "LOOM_ATTR_LOG_JSON"

/-- What the text of a variable means for a field. -/
def ofText? : Field α → String → Option α
  | maxFetches, text | fetchTimeout, text | baseDelay, text | maxDelay, text =>
    (Text.readNumeral Environment.maxNumber text).toOption
  | maxAttempts, text => (Text.readNumeral Environment.maxAttempts text).toOption
  | databaseUrl, text | level, text => some text
  | algorithm, text => (DigestAlgorithm.ofName text).toOption
  | encoding, text => (IdEncoding.ofName text).toOption
  | fallsBack, text | json, text => some (Text.lowercaseLatin text = "true" || text = "1")

end Field

namespace Environment

variable {env : Environment} {key : String} {l : Layer}

/-- A variable is not set or empty, or what is read from it. -/
theorem map_read {read : String → Except String α} {o : Option α} (h : env.read? key read = .ok o) :
    (env.value? key).map (fun text => (read text).toOption) = o.map some := by
  rw [read?] at h
  cases hvalue : env.value? key with
  | none =>
    rw [hvalue] at h
    cases h
    rfl
  | some text =>
    rw [hvalue] at h
    dsimp only at h
    cases hread : read text with
    | error reason => rw [hread] at h; cases h
    | ok a =>
      rw [hread] at h
      cases h
      rw [Option.map_some, hread]
      rfl

theorem map_number {limit : Nat} {o : Option Nat} (h : env.number? key limit = .ok o) :
    (env.value? key).map (fun text => (Text.readNumeral limit text).toOption) = o.map some := by
  rw [← map_read h]
  congr 1
  funext text
  cases Text.readNumeral limit text <;> rfl

/-- A variable is set and not empty where its layer sets the field, and then it can be read. -/
theorem map_ofText? (h : env.layer = .ok l) (f : Field α) :
    (env.value? f.variableName).map f.ofText? = (l.get? f).map some := by
  obtain ⟨resolver, hresolver, h⟩ := of_bind_ok h
  obtain ⟨maxFetches, hmaxFetches, hresolver⟩ := of_bind_ok hresolver
  obtain ⟨fetchTimeout, hfetchTimeout, hresolver⟩ := of_bind_ok hresolver
  obtain ⟨pairwise, hpairwise, h⟩ := of_bind_ok h
  obtain ⟨algorithm, halgorithm, hpairwise⟩ := of_bind_ok hpairwise
  obtain ⟨encoding, hencoding, hpairwise⟩ := of_bind_ok hpairwise
  obtain ⟨maxAttempts, hmaxAttempts, hpairwise⟩ := of_bind_ok hpairwise
  obtain ⟨baseDelay, hbaseDelay, hpairwise⟩ := of_bind_ok hpairwise
  obtain ⟨maxDelay, hmaxDelay, hpairwise⟩ := of_bind_ok hpairwise
  cases hresolver
  cases hpairwise
  cases h
  cases f with
  | maxFetches => exact map_number hmaxFetches
  | fetchTimeout => exact map_number hfetchTimeout
  | databaseUrl => rfl
  | algorithm => exact map_read halgorithm
  | encoding => exact map_read hencoding
  | maxAttempts => exact map_number hmaxAttempts
  | baseDelay => exact map_number hbaseDelay
  | maxDelay => exact map_number hmaxDelay
  | fallsBack => exact (Option.map_map ..).symm
  | level => rfl
  | json => exact (Option.map_map ..).symm

end Environment

/-! ### Documents -/

namespace Field

/-- The name of the section of a field. -/
def sectionName : Field α → String
  | maxFetches | fetchTimeout => "resolver"
  | databaseUrl | algorithm | encoding | maxAttempts | baseDelay | maxDelay | fallsBack => "pairwise"
  | level | json => "logging"

/-- The place of a field in its section. -/
def place : Field α → Nat
  | maxFetches | databaseUrl | level => 0
  | fetchTimeout | algorithm | json => 1
  | encoding => 2
  | maxAttempts => 3
  | baseDelay => 4
  | maxDelay => 5
  | fallsBack => 6

/-- The name of a field in its section. -/
def name : Field α → String
  | maxFetches => "max_concurrent_fetches"
  | fetchTimeout => "fetch_timeout_ms"
  | databaseUrl => "database_url"
  | algorithm => "algorithm"
  | encoding => "encoding"
  | maxAttempts => "max_attempts"
  | baseDelay => "base_delay_ms"
  | maxDelay => "max_delay_ms"
  | fallsBack => "fallback_to_computed"
  | level => "level"
  | json => "json"

/-- What an entry of a document means for a field. -/
def ofToml? : Field α → Toml → Option α
  | maxFetches | fetchTimeout | baseDelay | maxDelay => Document.number? Environment.maxNumber
  | maxAttempts => Document.number? Environment.maxAttempts
  | databaseUrl | level => Document.text?
  | algorithm => Document.choice? [.sha256, .sha512] DigestAlgorithm.name
  | encoding => Document.choice? [.base64, .hex] IdEncoding.name
  | fallsBack | json => Document.flag?

end Field

namespace Document

variable {entries : List (String × Toml)} {fields : Fields} {l : Layer} {v : Toml}

/-- The entry of a field, if the document has its section and the section has the field. -/
def item? (entries : List (String × Toml)) (f : Field α) : Option Toml :=
  (entries.lookup f.sectionName).bind fun v => (fields? v).bind fun fields => fields f.place f.name

theorem map_field {place : Nat} {name : String} {read : Toml → Option α} {o : Option α}
    (h : field? fields place name read = some o) : (fields place name).map read = o.map some := by
  rw [field?] at h
  cases hentry : fields place name with
  | none =>
    rw [hentry] at h
    cases h
    rfl
  | some v =>
    rw [hentry] at h
    obtain ⟨a, hread, rfl⟩ := Option.map_eq_some_iff.1 h
    rw [Option.map_some, hread, Option.map_some]

/-- What a document says of a field: its section, if it is there, can have fields, and the entry, if it is there, can
be read. -/
structure Says (entries : List (String × Toml)) (f : Field α) (o : Option α) : Prop where
  fields {v : Toml} (hsection : entries.lookup f.sectionName = some v) : ∃ fields, fields? v = some fields
  entry : (item? entries f).map f.ofToml? = o.map some

theorem says_of_section {place : Nat} {read : Toml → Option β} {o : Option β} {get : β → Option α} {f : Field α}
    (hsection : field? (fun _ name => entries.lookup name) place f.sectionName read = some o)
    (hfield : ∀ v s, read v = some s →
      ∃ fields, fields? v = some fields ∧ field? fields f.place f.name f.ofToml? = some (get s)) :
    Says entries f (o.bind get) := by
  rw [field?] at hsection
  cases hentry : entries.lookup f.sectionName with
  | none =>
    rw [hentry] at hsection
    cases hsection
    refine ⟨fun h => ?_, ?_⟩
    · rw [hentry] at h
      cases h
    · rw [item?, hentry]
      rfl
  | some v =>
    rw [hentry] at hsection
    obtain ⟨s, hread, rfl⟩ := Option.map_eq_some_iff.1 hsection
    obtain ⟨fields, hfields, hget⟩ := hfield v s hread
    refine ⟨fun h => ?_, ?_⟩
    · rw [hentry] at h
      cases h
      exact ⟨fields, hfields⟩
    · rw [item?, hentry, Option.bind_some, hfields, Option.bind_some, map_field hget, Option.bind_some]

/-- A document says what its layer sets. -/
theorem says_of_layer {text : String} (h : layer? text = some l) :
    ∃ entries, Toml.ofText? text = some entries ∧ ∀ {α : Type} (f : Field α), Says entries f (l.get? f) := by
  simp only [layer?, bind, pure, Option.bind_eq_some_iff] at h
  obtain ⟨entries, hentries, resolver, hresolver, pairwise, hpairwise, logging, hlogging, hl⟩ := h
  cases hl
  refine ⟨entries, hentries, fun f => ?_⟩
  cases f with
  | maxFetches | fetchTimeout =>
    refine says_of_section hresolver fun v s hs => ?_
    simp only [resolver?, bind, pure, Option.bind_eq_some_iff] at hs
    obtain ⟨fields, hfields, a, ha, b, hb, hs⟩ := hs
    cases hs
    exact ⟨fields, hfields, by assumption⟩
  | level | json =>
    refine says_of_section hlogging fun v s hs => ?_
    simp only [logging?, bind, pure, Option.bind_eq_some_iff] at hs
    obtain ⟨fields, hfields, a, ha, b, hb, hs⟩ := hs
    cases hs
    exact ⟨fields, hfields, by assumption⟩
  | _ =>
    refine says_of_section hpairwise fun v s hs => ?_
    simp only [pairwise?, bind, pure, Option.bind_eq_some_iff] at hs
    obtain ⟨fields, hfields, a, ha, b, hb, c, hc, d, hd, e, he, g, hg, i, hi, hs⟩ := hs
    cases hs
    exact ⟨fields, hfields, by assumption⟩

end Document

/-- Only of a file that is not there it is said so. -/
theorem Host.file_of_notFound {host : Host} {path reason : String}
    (h : host.read path = .error ⟨.notFound, reason⟩) : host.file path = .unreadable ⟨.notFound, reason⟩ := by
  rw [read] at h
  cases hfile : host.file path with
  | unreadable failure =>
    rw [hfile] at h
    cases h
    rfl
  | content bytes =>
    rw [hfile] at h
    dsimp only at h
    split at h <;> cases h

namespace Source

variable {host : Host} {source : Source} {path : String} {required : Bool} {l : Layer}

/-- What a source sets a field to. -/
def get? (host : Host) (f : Field α) : Source → Option α
  | .environment => (host.environment.value? f.variableName).bind f.ofText?
  | .file path _ => (host.read path).toOption.bind fun text =>
    (Toml.ofText? text).bind fun entries => (Document.item? entries f).bind f.ofToml?

/-- A source does not set a field. -/
inductive Omits (host : Host) (f : Field α) : Source → Prop
  | skipped {path reason : String} (h : host.file path = .unreadable ⟨.notFound, reason⟩) :
    Omits host f (.file path false)
  | unset (h : host.environment f.variableName = none) : Omits host f .environment
  | empty (h : host.environment f.variableName = some "") : Omits host f .environment
  | noSection {path : String} {required : Bool} {text : String} {entries : List (String × Toml)}
    (htext : host.read path = .ok text) (hentries : Toml.ofText? text = some entries)
    (h : entries.lookup f.sectionName = none) : Omits host f (.file path required)
  | noField {path : String} {required : Bool} {text : String} {entries : List (String × Toml)}
    {v : Toml} {fields : Document.Fields} (htext : host.read path = .ok text)
    (hentries : Toml.ofText? text = some entries) (hsection : entries.lookup f.sectionName = some v)
    (hfields : Document.fields? v = some fields) (h : fields f.place f.name = none) :
    Omits host f (.file path required)

theorem Omits.get?_eq_none {f : Field α} (h : source.Omits host f) : source.get? host f = none := by
  cases h with
  | skipped h => simp [get?, Host.read, h, Except.toOption]
  | unset h => simp [get?, Environment.value?, h]
  | empty h => simp [get?, Environment.value?, h]
  | noSection htext hentries h => simp [get?, htext, Except.toOption, hentries, Document.item?, h]
  | noField htext hentries hsection hfields h =>
    simp [get?, htext, Except.toOption, hentries, Document.item?, hsection, hfields, h]

theorem load_environment (h : environment.load host = .ok l) (f : Field α) :
    l.get? f = environment.get? host f ∧ (l.get? f = none → environment.Omits host f) := by
  have hmap := Environment.map_ofText? h f
  rw [get?]
  cases hvalue : host.environment.value? f.variableName with
  | none =>
    rw [hvalue, Option.map_none, eq_comm, Option.map_eq_none_iff] at hmap
    refine ⟨hmap, fun _ => ?_⟩
    cases hset : host.environment f.variableName with
    | none => exact .unset hset
    | some text =>
      rw [Environment.value?, hset, Option.filter_eq_none_iff] at hvalue
      refine .empty ?_
      rw [hset]
      simpa using hvalue
  | some text =>
    rw [hvalue, Option.map_some] at hmap
    obtain ⟨a, hget, hread⟩ := Option.map_eq_some_iff.1 hmap.symm
    rw [hget, Option.bind_some, ← hread]
    exact ⟨rfl, nofun⟩

/-- Only an optional file that is missing is skipped. -/
theorem load_unreadable {failure : FileFailure} (hread : host.read path = .error failure)
    (h : (file path required).load host = .ok l) (f : Field α) :
    l.get? f = (file path required).get? host f ∧ (l.get? f = none → (file path required).Omits host f) := by
  rw [load, hread] at h
  dsimp only at h
  split at h
  · next hmissing =>
    obtain ⟨hkind, rfl⟩ := hmissing
    cases h
    refine ⟨?_, fun _ => ?_⟩
    · rw [Layer.get?_empty, get?, hread]
      rfl
    · obtain ⟨kind, reason⟩ := failure
      obtain rfl : kind = .notFound := hkind
      exact .skipped (Host.file_of_notFound hread)
  · cases h

theorem load_text {text : String} (htext : host.read path = .ok text) (h : (file path required).load host = .ok l)
    (f : Field α) : l.get? f = (file path required).get? host f ∧
      (l.get? f = none → (file path required).Omits host f) := by
  rw [load, htext] at h
  dsimp only at h
  cases hlayer : Document.layer? text with
  | none => rw [hlayer] at h; cases h
  | some l' =>
    rw [hlayer] at h
    cases h
    obtain ⟨entries, hentries, hsays⟩ := Document.says_of_layer hlayer
    obtain ⟨hfields, hmap⟩ := hsays f
    rw [get?, htext, Except.toOption, Option.bind_some, hentries, Option.bind_some]
    cases hentry : Document.item? entries f with
    | none =>
      rw [hentry, Option.map_none, eq_comm, Option.map_eq_none_iff] at hmap
      refine ⟨hmap, fun _ => ?_⟩
      cases hsection : entries.lookup f.sectionName with
      | none => exact .noSection htext hentries hsection
      | some v =>
        obtain ⟨fields, hv⟩ := hfields hsection
        rw [Document.item?, hsection, Option.bind_some, hv, Option.bind_some] at hentry
        exact .noField htext hentries hsection hv hentry
    | some v =>
      rw [hentry, Option.map_some] at hmap
      obtain ⟨a, hget, hread⟩ := Option.map_eq_some_iff.1 hmap.symm
      rw [hget, Option.bind_some, ← hread]
      exact ⟨rfl, fun hnone => absurd hnone (Option.some_ne_none _)⟩

/-- Whatever is wrong with a file is said of its path. -/
theorem load_file_eq_error_iff {e : ConfigError} : (file path required).load host = .error e ↔
    (∃ failure, host.read path = .error failure ∧ (failure.kind = .notFound → required = true) ∧
      e = .file path failure) ∨
    ∃ text, host.read path = .ok text ∧ Document.layer? text = none ∧ e = .form path (host.complaint text) := by
  rw [load]
  cases host.read path with
  | error failure =>
    dsimp only
    by_cases hskips : failure.kind = .notFound ∧ required = false
    · rw [if_pos hskips]
      simp [hskips]
    · rw [if_neg hskips]
      have hrequired : failure.kind = .notFound → required = true := fun hkind => by simpa [hkind] using hskips
      simpa [eq_comm (a := e)] using fun _ => hrequired
  | ok text =>
    dsimp only
    cases hlayer : Document.layer? text with
    | none => simp [hlayer, eq_comm]
    | some l => simp [hlayer]

/-- The layer of a source sets what the source does, which is all that it does not omit. -/
theorem load_get? (h : source.load host = .ok l) (f : Field α) :
    l.get? f = source.get? host f ∧ (l.get? f = none ↔ source.Omits host f) := by
  have hget : l.get? f = source.get? host f ∧ (l.get? f = none → source.Omits host f) := by
    cases source with
    | environment => exact load_environment h f
    | file path required =>
      cases hread : host.read path with
      | error failure => exact load_unreadable hread h f
      | ok text => exact load_text hread h f
  exact ⟨hget.1, hget.2, fun homits => hget.1.trans homits.get?_eq_none⟩

end Source

end AttributeRelease.Config
