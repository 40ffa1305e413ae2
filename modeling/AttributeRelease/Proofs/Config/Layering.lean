import AttributeRelease.Proofs.Bytes.Encodings
import AttributeRelease.Proofs.Config.Fields

/-!
The settings that sources give together. Each field has the value that the last source to set it gives, or else its
default, and only these values decide whether the settings are refused. So what a later source sets again may as well
not have been set.
-/

namespace AttributeRelease.Config

open AttributeRelease.Pairwise (Salt)

variable {α : Type} {env : Environment} {host : Host} {sources before after : List Source} {source : Source}
variable {e : ConfigError}

/-- A source can be read. -/
def Source.Loads (host : Host) (source : Source) : Prop := ∃ l, source.load host = .ok l

/-- What the last source to set a field sets it to. -/
def Field.last? (f : Field α) (host : Host) (sources : List Source) : Option α :=
  sources.reverse.findSome? (·.get? host f)

/-- What the last source to set a field sets it to, or else its default. -/
def Field.value (f : Field α) (host : Host) (sources : List Source) : α :=
  (f.last? host sources).getD f.default

theorem Field.last?_append (f : Field α) (host : Host) (before after : List Source) :
    f.last? host (before ++ after) = (f.last? host after).or (f.last? host before) := by
  rw [last?, List.reverse_append, List.findSome?_append]
  rfl

theorem Field.last?_cons (f : Field α) (host : Host) (source : Source) (after : List Source) :
    f.last? host (source :: after) = (f.last? host after).or (source.get? host f) := by
  rw [← List.singleton_append, last?_append]
  congr 1
  exact List.findSome?_singleton

/-- Lays the layers of sources over a layer. -/
def overlayAll (host : Host) (base : Layer) (sources : List Source) : Except ConfigError Layer :=
  sources.foldlM (fun merged source => return merged.overlay (← source.load host)) base

theorem overlayAll_cons {l : Layer} (h : source.load host = .ok l) (base : Layer) (sources : List Source) :
    overlayAll host base (source :: sources) = overlayAll host (base.overlay l) sources := by
  simp only [overlayAll, List.foldlM_cons, h]
  rfl

theorem overlayAll_cons_error (h : source.load host = .error e) (base : Layer) (sources : List Source) :
    overlayAll host base (source :: sources) = .error e := by
  simp only [overlayAll, List.foldlM_cons, h]
  rfl

/-- Sources that can all be read set each field to what the last of them sets it to. -/
theorem overlayAll_ok (h : ∀ s ∈ sources, s.Loads host) (base : Layer) :
    ∃ merged, overlayAll host base sources = .ok merged ∧
      ∀ {α : Type} (f : Field α), merged.get? f = (f.last? host sources).or (base.get? f) := by
  induction sources generalizing base with
  | nil => exact ⟨base, rfl, fun f => rfl⟩
  | cons source rest ih =>
    obtain ⟨⟨l, hl⟩, hrest⟩ := List.forall_mem_cons.1 h
    obtain ⟨merged, hmerged, hget⟩ := ih hrest (base.overlay l)
    refine ⟨merged, (overlayAll_cons hl base rest).trans hmerged, fun f => ?_⟩
    rw [hget, Layer.get?_overlay, (Source.load_get? hl f).1, Field.last?_cons, Option.or_assoc]

/-- The first source that cannot be read decides. -/
theorem overlayAll_error (hbefore : ∀ s ∈ before, s.Loads host) (h : source.load host = .error e) (base : Layer) :
    overlayAll host base (before ++ source :: after) = .error e := by
  induction before generalizing base with
  | nil => exact overlayAll_cons_error h base after
  | cons first rest ih =>
    obtain ⟨⟨l, hl⟩, hrest⟩ := List.forall_mem_cons.1 hbefore
    exact (overlayAll_cons hl base (rest ++ source :: after)).trans (ih hrest (base.overlay l))

/-! ### Settings that are refused -/

/-- Values and a salt with which nothing can work. -/
inductive Unusable (v : {α : Type} → Field α → α) (env : Environment) : Prop
  | fetches (h : v .maxFetches = 0)
  | attempts (h : v .maxAttempts = 0)
  | delays (h : v .maxDelay < v .baseDelay)
  | salt {text : String} (hset : env "LOOM_ATTR_PAIRWISE_SALT" = some text) (hblank : text ≠ "")
    (h : text.utf8ByteSize < 16)

/-- A salt has as many bytes as its text. -/
theorem length_ofString (text : String) : (Salt.ofString text).bytes.length = text.utf8ByteSize :=
  Bytes.length_toUTF8 text

theorem salt?_eq_some_iff {salt : Salt} : env.salt? = some salt ↔
    ∃ text, env "LOOM_ATTR_PAIRWISE_SALT" = some text ∧ text ≠ "" ∧ .ofString text = salt := by
  simp only [Environment.salt?, Environment.value?, saltVariable, Option.map_eq_some_iff, Option.filter_eq_some_iff,
    decide_eq_true_eq, and_assoc]

theorem unusable_of_fault {v : {α : Type} → Field α → α} {fault : Fault}
    (h : (Settings.ofFields v env.salt?).fault? = some fault) : Unusable v env := by
  rw [Settings.fault?] at h
  split at h
  · next hfetches => exact .fetches hfetches
  split at h
  · next hattempts => exact .attempts hattempts
  split at h
  · next hdelays => exact .delays hdelays
  split at h
  · next hsalt =>
    obtain ⟨salt, hset, hshort⟩ := (Option.any_eq_true _ _).1 hsalt
    obtain ⟨text, htext, hblank, rfl⟩ := salt?_eq_some_iff.1 hset
    rw [decide_eq_true_eq, length_ofString] at hshort
    exact .salt htext hblank hshort
  · cases h

theorem Unusable.fault {v : {α : Type} → Field α → α} (h : Unusable v env) :
    ∃ fault, (Settings.ofFields v env.salt?).fault? = some fault := by
  cases hfault : (Settings.ofFields v env.salt?).fault? with
  | some fault => exact ⟨fault, rfl⟩
  | none =>
    rw [Settings.fault?] at hfault
    split at hfault
    · cases hfault
    next hfetches =>
    split at hfault
    · cases hfault
    next hattempts =>
    split at hfault
    · cases hfault
    next hdelays =>
    split at hfault
    · cases hfault
    next hsalt =>
    cases h with
    | fetches h => exact absurd h hfetches
    | attempts h => exact absurd h hattempts
    | delays h => exact absurd h hdelays
    | @salt text hset hblank h =>
      refine absurd ?_ hsalt
      change env.salt?.any _ = true
      rw [salt?_eq_some_iff.2 ⟨text, hset, hblank, rfl⟩, Option.any_some, decide_eq_true_eq, length_ofString]
      exact h

theorem load_eq (host : Host) (sources : List Source) :
    load host sources = overlayAll host {} sources >>= fun merged => settings merged host.environment.salt? := rfl

/-- Only the values of the fields and the salt count. -/
theorem load_ok (h : ∀ s ∈ sources, s.Loads host) :
    load host sources =
      match (Settings.ofFields (·.value host sources) host.environment.salt?).fault? with
      | some fault => .error (.invalid fault)
      | none => .ok (.ofFields (·.value host sources) host.environment.salt?) := by
  obtain ⟨merged, hmerged, hget⟩ := overlayAll_ok h {}
  have hsettings : merged.settings host.environment.salt? =
      .ofFields (·.value host sources) host.environment.salt? := by
    rw [Layer.settings_eq]
    congr 1
    funext α f
    rw [hget, Layer.get?_empty, Option.or_none]
    rfl
  rw [load_eq, hmerged, ← hsettings]
  rfl

/-- The last source to set a field is followed by none that does. -/
theorem Field.last?_eq_some_iff (f : Field α) {v : α} : f.last? host sources = some v ↔
    ∃ before source after, sources = before ++ source :: after ∧ source.get? host f = some v ∧
      ∀ s ∈ after, s.get? host f = none := by
  rw [last?, List.findSome?_eq_some_iff]
  constructor
  · rintro ⟨after, source, before, hsplit, hv, hafter⟩
    refine ⟨before.reverse, source, after.reverse, ?_, hv, fun s hs => hafter s (List.mem_reverse.1 hs)⟩
    rw [← List.reverse_inj, hsplit]
    simp
  · rintro ⟨before, source, after, rfl, hv, hafter⟩
    exact ⟨after.reverse, source, before.reverse, by simp, hv, fun s hs => hafter s (List.mem_reverse.1 hs)⟩

theorem Field.last?_eq_none_iff (f : Field α) : f.last? host sources = none ↔ ∀ s ∈ sources, s.get? host f = none := by
  simp [last?]

/-- A field is as if a source had not been there that does not set it, or before another one that does. -/
theorem Field.value_of_overridden (f : Field α) (h : source.get? host f = none ∨ ∃ s ∈ after, s.get? host f ≠ none) :
    f.value host (before ++ source :: after) = f.value host (before ++ after) := by
  rw [value, value, last?_append, last?_append, last?_cons]
  rcases h with hnone | ⟨s, hs, hset⟩
  · rw [hnone, Option.or_none]
  · cases hlast : f.last? host after with
    | none => exact absurd ((last?_eq_none_iff f).1 hlast s hs) hset
    | some v => rfl

theorem load_of_overridden (h : ∀ s ∈ before ++ source :: after, s.Loads host)
    (hfields : ∀ (α : Type) (f : Field α), source.Omits host f ∨ ∃ s ∈ after, ¬ s.Omits host f) :
    load host (before ++ source :: after) = load host (before ++ after) := by
  have hsublist : (before ++ after).Sublist (before ++ source :: after) :=
    (List.sublist_cons_self source after).append_left before
  have hvalue {α : Type} (f : Field α) : f.value host (before ++ source :: after) = f.value host (before ++ after) := by
    refine f.value_of_overridden ((hfields α f).imp Source.Omits.get?_eq_none ?_)
    -- only of a source that can be read it is known that it sets what it does not omit
    rintro ⟨s, hs, homits⟩
    obtain ⟨l, hl⟩ := h s (by simp [hs])
    obtain ⟨hget, hiff⟩ := Source.load_get? hl f
    exact ⟨s, hs, fun hnone => homits (hiff.1 (hget.trans hnone))⟩
  rw [load_ok h, load_ok fun s hs => h s (hsublist.subset hs)]
  simp only [hvalue]

/-- Settings are what their sources say last. -/
theorem last_writer_wins (host : Host) :
    (∀ before source after e, (∀ s ∈ before, s.Loads host) → source.load host = .error e →
      load host (before ++ source :: after) = .error e) ∧
    (∀ sources, (∀ s ∈ sources, s.Loads host) →
      ((∃ fault, load host sources = .error (.invalid fault)) ↔ Unusable (·.value host sources) host.environment) ∧
      (¬ Unusable (·.value host sources) host.environment →
        load host sources = .ok (.ofFields (·.value host sources) host.environment.salt?))) ∧
    (∀ (α : Type) (f : Field α) sources v, f.last? host sources = some v ↔
      ∃ before source after, sources = before ++ source :: after ∧ source.get? host f = some v ∧
        ∀ s ∈ after, s.get? host f = none) ∧
    (∀ source : Source, source.Loads host → ∀ (α : Type) (f : Field α),
      source.get? host f = none ↔ source.Omits host f) ∧
    (∀ before source after, (∀ s ∈ before ++ source :: after, s.Loads host) →
      (∀ (α : Type) (f : Field α), source.Omits host f ∨ ∃ s ∈ after, ¬ s.Omits host f) →
        load host (before ++ source :: after) = load host (before ++ after)) ∧
    ∀ a b c : Layer, (a.overlay b).overlay c = a.overlay (b.overlay c) ∧ a.overlay {} = a ∧
      ({} : Layer).overlay a = a := by
  refine ⟨fun before source after e hbefore he => ?_, fun sources h => ⟨⟨?_, ?_⟩, ?_⟩, fun α f sources v =>
    f.last?_eq_some_iff, fun source h α f => ?_, fun before source after h hfields => load_of_overridden h hfields,
    fun a b c => ⟨a.overlay_assoc b c, a.overlay_empty, a.empty_overlay⟩⟩
  · rw [load_eq, overlayAll_error hbefore he]
    rfl
  · rintro ⟨fault, hfault⟩
    rw [load_ok h] at hfault
    split at hfault
    · next hset => exact unusable_of_fault hset
    · cases hfault
  · intro hunusable
    obtain ⟨fault, hfault⟩ := hunusable.fault
    exact ⟨fault, by rw [load_ok h, hfault]⟩
  · intro husable
    rw [load_ok h]
    split
    · next hfault => exact absurd (unusable_of_fault hfault) husable
    · rfl
  · obtain ⟨l, hl⟩ := h
    obtain ⟨hget, hiff⟩ := Source.load_get? hl f
    rw [← hget]
    exact hiff

/-! A file asks for no fetches at once, which would be refused, but the environment asks for four. -/

namespace Overridden

def text : String := "[resolver]\nmax_concurrent_fetches = 0\nfetch_timeout_ms = 250\n"

def path : String := "attr.toml"

def four : Host where
  environment key := if key = "LOOM_ATTR_RESOLVER_MAX_CONCURRENT_FETCHES" then some "4" else none
  file name := if name = path then .content text.toUTF8.data.toList else .unreadable ⟨.notFound, "no such file"⟩
  complaint _ := "it has another form"

def file : Source := .file path true

def fileLayer : Layer := { resolver := some { maxFetches := some 0, fetchTimeout := some 250 } }

def fourLayer : Layer := { resolver := some { maxFetches := some 4 }, pairwise := some {}, logging := some {} }

theorem file_load : file.load four = .ok fileLayer := by
  have htext : String.fromUTF8? ⟨text.toUTF8.data.toList.toArray⟩ = some text := by
    rw [Array.toArray_toList, String.fromUTF8?]
    exact dif_pos text.isValidUTF8
  have hread : four.read path = .ok text := by
    simp only [Host.read, four, reduceIte, htext]
  have hlayer : Document.layer? text = some fileLayer := by decide +kernel
  rw [file, Source.load, hread]
  simp only [hlayer]

theorem four_load : Source.environment.load four = .ok fourLayer := rfl

theorem value_file (f : Field α) : f.value four [file] = (fileLayer.get? f).getD f.default := by
  rw [Field.value, Field.last?_cons, ← (Source.load_get? file_load f).1]
  rfl

theorem value_both (f : Field α) :
    f.value four [file, .environment] = ((fourLayer.get? f).or (fileLayer.get? f)).getD f.default := by
  rw [Field.value, Field.last?_cons, Field.last?_cons, ← (Source.load_get? file_load f).1,
    ← (Source.load_get? four_load f).1]
  rfl

theorem last_writer_wins_of_overridden :
    (∃ fault, load four [file] = .error (.invalid fault)) ∧
      load four [file, .environment] = .ok { resolver := { maxFetches := 4, fetchTimeout := 250 } } := by
  obtain ⟨-, hload, -⟩ := last_writer_wins four
  have hfile : file.Loads four := ⟨_, file_load⟩
  have hfour : Source.environment.Loads four := ⟨_, four_load⟩
  constructor
  · refine (hload [file] (by simpa using hfile)).1.2 (.fetches ?_)
    rw [value_file]
    rfl
  · rw [(hload [file, .environment] (by simp [hfile, hfour])).2 ?_]
    · simp only [value_both]
      rfl
    · intro hunusable
      cases hunusable with
      | fetches h => rw [value_both] at h; cases h
      | attempts h => rw [value_both] at h; cases h
      | delays h =>
        rw [value_both, value_both] at h
        exact absurd h (by decide)
      | salt hset => cases hset

end Overridden

end AttributeRelease.Config
