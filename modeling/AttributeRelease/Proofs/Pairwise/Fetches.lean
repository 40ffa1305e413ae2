import AttributeRelease.Pairwise.Connector
import AttributeRelease.Proofs.Attribute.Merging
import AttributeRelease.Proofs.Pairwise.Uniqueness

/-!
What the identifiers of connectors link. A fetch is turned away before the store is asked, or it asks the store for
one pair, and that pair is all the store learns of the request. Fetches that share a store without a fallback, in
which nothing is retired, are given the same identifier when they ask for the same pair, and only then.
-/

namespace AttributeRelease.Pairwise

open Dialogue (Path)

/-- A connector could not work from what it was given. -/
inductive IsInputError : ConnectorError → Prop
  | missing (what : String) : IsInputError (.missingInput what)
  | invalid (reason : String) : IsInputError (.invalidInput reason)

namespace ConnectorSettings

/-- What a request lacks. -/
inductive Lacks (s : ConnectorSettings) (input : ConnectorInput) : Prop
  | requester (h : input.request.requester.getD "" = "")
  | principal (hsource : s.sourceKey = none) (h : input.request.principal = "")
  | noValue {source : String} (hsource : s.sourceKey = some source) (h : input.attributes.valuesOf source = [])
  | manyValues {source : String} (hsource : s.sourceKey = some source)
    (h : 1 < (input.attributes.valuesOf source).length)
  | blankValue {source : String} {v : Value} (hsource : s.sourceKey = some source)
    (h : input.attributes.valuesOf source = [v]) (hblank : v.display = "")

/-- As whom the requester counts: as the group that it is in, or else as itself. -/
def RelyingParty (s : ConnectorSettings) (input : ConnectorInput) (key : String) : Prop :=
  ∃ requester, input.request.requester = some requester ∧ requester ≠ "" ∧
    key = (s.affinity.get? requester).getD requester

/-- The principal of the request, or the text of the only value of the source attribute. -/
def PrincipalText (s : ConnectorSettings) (input : ConnectorInput) (text : String) : Prop :=
  match s.sourceKey with
  | none => text = input.request.principal
  | some source => ∃ v, input.attributes.valuesOf source = [v] ∧ text = v.display

/-- The pair for which the store is asked. -/
structure Names (s : ConnectorSettings) (input : ConnectorInput) (pair : Pair) : Prop where
  relyingParty : s.RelyingParty input pair.relyingParty
  principal : s.PrincipalText input pair.principal
  notBlank : pair.principal ≠ ""

variable {s : ConnectorSettings} {input input' : ConnectorInput} {pair pair' : Pair} {e : ConnectorError}

theorem Names.not_lacks (h : s.Names input pair) : ¬ s.Lacks input := by
  obtain ⟨⟨requester, hrequester, hnotBlank, -⟩, hprincipal, htext⟩ := h
  intro hlacks
  cases hlacks with
  | requester h =>
    rw [hrequester] at h
    exact hnotBlank h
  | principal hsource h =>
    simp only [PrincipalText, hsource] at hprincipal
    exact htext (hprincipal.trans h)
  | noValue hsource h =>
    simp only [PrincipalText, hsource, h] at hprincipal
    obtain ⟨v, hv, -⟩ := hprincipal
    cases hv
  | manyValues hsource h =>
    simp only [PrincipalText, hsource] at hprincipal
    obtain ⟨v, hv, -⟩ := hprincipal
    simp [hv] at h
  | blankValue hsource h hblank =>
    simp only [PrincipalText, hsource, h] at hprincipal
    obtain ⟨v, hv, hv'⟩ := hprincipal
    cases hv
    exact htext (hv'.trans hblank)

theorem PrincipalText.unique {text text' : String} (h : s.PrincipalText input text)
    (h' : s.PrincipalText input text') : text = text' := by
  cases hsource : s.sourceKey with
  | none =>
    simp only [PrincipalText, hsource] at h h'
    exact h.trans h'.symm
  | some source =>
    simp only [PrincipalText, hsource] at h h'
    obtain ⟨v, hv, rfl⟩ := h
    obtain ⟨v', hv', rfl⟩ := h'
    rw [hv] at hv'
    cases hv'
    rfl

theorem Names.unique (h : s.Names input pair) (h' : s.Names input pair') : pair = pair' := by
  obtain ⟨key, text⟩ := pair
  obtain ⟨key', text'⟩ := pair'
  obtain ⟨requester, hrequester, -, rfl⟩ := h.relyingParty
  obtain ⟨requester', hrequester', -, rfl⟩ := h'.relyingParty
  rw [hrequester] at hrequester'
  cases hrequester'
  obtain rfl : text = text' := h.principal.unique h'.principal
  rfl

/-- A text that is not blank. -/
def unlessBlank (text : String) : Except ConnectorError String :=
  if text = "" then .error (.missingInput "principal") else .ok text

theorem principal_of_none (hsource : s.sourceKey = none) :
    s.principal input = unlessBlank input.request.principal := by
  rw [principal, hsource]
  rfl

theorem principal_of_some {source : String} (hsource : s.sourceKey = some source) :
    s.principal input = match input.attributes.valuesOf source with
      | [v] => unlessBlank v.display
      | [] => .error (.missingInput s!"source attribute '{source}'")
      | vs => .error (.invalidInput s!"source attribute '{source}' has {vs.length} values") := by
  simp only [principal, hsource, AttributeMap.valuesOf]
  rcases ((input.attributes.get? source).map Attribute.values).getD [] with _ | ⟨v, _ | ⟨w, rest⟩⟩ <;> rfl

/-- The principal is found, or something is wrong with it. -/
theorem principal_cases (s : ConnectorSettings) (input : ConnectorInput) :
    (∃ text, s.principal input = .ok text ∧ s.PrincipalText input text ∧ text ≠ "") ∨
      ∃ e, s.principal input = .error e ∧ IsInputError e ∧ s.Lacks input := by
  cases hsource : s.sourceKey with
  | none =>
    rw [principal_of_none hsource]
    simp only [PrincipalText, hsource]
    by_cases hblank : input.request.principal = ""
    · exact .inr ⟨_, if_pos hblank, .missing _, .principal hsource hblank⟩
    · exact .inl ⟨_, if_neg hblank, rfl, hblank⟩
  | some source =>
    rw [principal_of_some hsource]
    simp only [PrincipalText, hsource]
    rcases hvalues : input.attributes.valuesOf source with _ | ⟨v, _ | ⟨w, rest⟩⟩
    · exact .inr ⟨_, rfl, .missing _, .noValue hsource hvalues⟩
    · by_cases hblank : v.display = ""
      · exact .inr ⟨_, if_pos hblank, .missing _, .blankValue hsource hvalues hblank⟩
      · exact .inl ⟨_, if_neg hblank, ⟨v, rfl, rfl⟩, hblank⟩
    · exact .inr ⟨_, rfl, .invalid _, .manyValues hsource (by simp [hvalues])⟩

/-- A request either lacks something or names one pair. -/
theorem pair_cases (s : ConnectorSettings) (input : ConnectorInput) :
    (∃ e, s.pair input = .error e ∧ IsInputError e ∧ s.Lacks input) ∨
      ∃ pair, s.pair input = .ok pair ∧ s.Names input pair := by
  rw [pair]
  cases hrequester : input.request.requester.filter (· ≠ "") with
  | none =>
    refine .inl ⟨_, rfl, .missing _, .requester ?_⟩
    cases hset : input.request.requester with
    | none => rfl
    | some requester => simpa [hset] using hrequester
  | some requester =>
    obtain ⟨hset, hnotBlank⟩ := Option.filter_eq_some_iff.1 hrequester
    rcases principal_cases s input with ⟨text, htext, hprincipal, hne⟩ | ⟨e, he, hinput, hlacks⟩
    · refine .inr ⟨⟨(s.affinity.get? requester).getD requester, text⟩, ?_, ⟨requester, hset, ?_, rfl⟩, hprincipal, hne⟩
      · simp [htext, bind, Except.bind, pure, Except.pure]
      · simpa using hnotBlank
    · refine .inl ⟨e, ?_, hinput, hlacks⟩
      simp [he, bind, Except.bind]

theorem pair_eq_ok_iff : s.pair input = .ok pair ↔ s.Names input pair := by
  rcases pair_cases s input with ⟨e, he, -, hlacks⟩ | ⟨pair', hpair', hnames'⟩
  · rw [he]
    exact ⟨nofun, fun hnames => absurd hlacks hnames.not_lacks⟩
  · rw [hpair']
    exact ⟨fun heq => Except.ok.inj heq ▸ hnames', fun hnames => congrArg Except.ok (hnames'.unique hnames)⟩

theorem lacks_of_pair (h : s.pair input = .error e) : IsInputError e ∧ s.Lacks input := by
  rcases pair_cases s input with ⟨e', he', hinput, hlacks⟩ | ⟨pair, hpair, -⟩
  · rw [h] at he'
    cases he'
    exact ⟨hinput, hlacks⟩
  · rw [h] at hpair
    cases hpair

/-- Two inputs agree in the requester and in where the principal is taken from. -/
structure Agree (s : ConnectorSettings) (input input' : ConnectorInput) : Prop where
  requester : input.request.requester = input'.request.requester
  principal (hsource : s.sourceKey = none) : input.request.principal = input'.request.principal
  values {source : String} (hsource : s.sourceKey = some source) :
    input.attributes.valuesOf source = input'.attributes.valuesOf source

theorem Agree.pair_eq (h : s.Agree input input') : s.pair input = s.pair input' := by
  have hsame : s.principal input = s.principal input' := by
    cases hkey : s.sourceKey with
    | none => rw [principal_of_none hkey, principal_of_none hkey, h.principal hkey]
    | some source => rw [principal_of_some hkey, principal_of_some hkey, h.values hkey]
  rw [pair, pair, h.requester, hsame]

end ConnectorSettings

/-- What a connector makes of the answer of the store. -/
def ConnectorSettings.deliver (s : ConnectorSettings) : Except StoreError String → Except ConnectorError AttributeMap
  | .error e => .error (.store e)
  | .ok id => .ok (.ofAttributes [.ofValues s.key [.string id]])

section Connector

variable {W : Type} {s : ConnectorSettings} {input : ConnectorInput} {pair : Pair} {e : ConnectorError}
  (get : Pair → Activity W (Except StoreError String))

theorem connector_of_error (h : s.pair input = .error e) : connector s get input = .done (.error e) := by
  simp only [connector, h]

theorem connector_of_ok (h : s.pair input = .ok pair) :
    connector s get input = (get pair).bind fun r => .done (s.deliver r) := by
  simp only [connector, h]
  congr 1
  funext r
  cases r <;> rfl

/-- Nothing counts but the requester and where the principal is taken from. -/
theorem connector_congr {input' : ConnectorInput} (h : s.Agree input input') :
    connector s get input = connector s get input' := by
  rw [connector, connector, h.pair_eq]

/-- A request is turned away without a question to the store when it lacks something, and only then. -/
theorem lacks_iff_turned_away :
    s.Lacks input ↔ ∃ e, IsInputError e ∧
      ∀ (W : Type) (get : Pair → Activity W (Except StoreError String)), connector s get input = .done (.error e) := by
  rcases s.pair_cases input with ⟨e, he, hinput, hlacks⟩ | ⟨pair, hpair, hnames⟩
  · exact ⟨fun _ => ⟨e, hinput, fun W get => connector_of_error get he⟩, fun _ => hlacks⟩
  · refine ⟨fun hlacks => absurd hlacks hnames.not_lacks, fun ⟨e, _, hanswer⟩ => ?_⟩
    -- a store that answers everybody gets its answer through
    have hserved := hanswer Unit fun _ => .done (.ok "")
    rw [connector_of_ok _ hpair] at hserved
    cases hserved

/-- A request that lacks nothing names one pair, and the store is asked for that. -/
theorem serves_of_not_lacks (h : ¬ s.Lacks input) : ∃ pair, (∀ pair', s.Names input pair' ↔ pair' = pair) ∧
    ∀ (W : Type) (get : Pair → Activity W (Except StoreError String)),
      connector s get input = (get pair).bind fun r => .done (s.deliver r) := by
  rcases s.pair_cases input with ⟨e, -, -, hlacks⟩ | ⟨pair, hpair, hnames⟩
  · exact absurd hlacks h
  · refine ⟨pair, fun pair' => ⟨fun hnames' => hnames'.unique hnames, ?_⟩, fun W get => connector_of_ok get hpair⟩
    rintro rfl
    exact hnames

end Connector

/-- Different identifiers are delivered as different attributes. -/
theorem ConnectorSettings.deliver_injective {s : ConnectorSettings} {id id' : String}
    (h : s.deliver (.ok id) = s.deliver (.ok id')) : id = id' := by
  have hentries : [(s.key, Attribute.ofValues s.key [.string id])] =
      [(s.key, Attribute.ofValues s.key [.string id'])] := congrArg Keyed.entries (Except.ok.inj h)
  have hvalues : [Value.string id] = [Value.string id'] :=
    congrArg (List.flatMap fun e : String × Attribute => e.2.values) hentries
  cases hvalues
  rfl

/-- A fetch, with what is still to be asked of the store for it. -/
inductive Fetch where
  | turnedAway (s : ConnectorSettings) (input : ConnectorInput) (e : ConnectorError) (h : s.pair input = .error e)
  | asking (s : ConnectorSettings) (input : ConnectorInput) (pair : Pair) (h : s.pair input = .ok pair)
    (d : Dialogue (Except StoreError String))

namespace Fetch

variable {store : Store}

/-- A fetch that begins. -/
def begin (store : Store) (s : ConnectorSettings) (input : ConnectorInput) : Fetch :=
  match h : s.pair input with
  | .error e => .turnedAway s input e h
  | .ok pair => .asking s input pair h (store.get pair)

def settings : Fetch → ConnectorSettings
  | turnedAway s .. | asking s .. => s

def input : Fetch → ConnectorInput
  | turnedAway _ input .. | asking _ input .. => input

/-- The answer of a fetch that is over. -/
def answer? : Fetch → Option (Except ConnectorError AttributeMap)
  | turnedAway _ _ e _ => some (.error e)
  | asking s _ _ _ (.done r) => some (s.deliver r)
  | asking .. => none

/-- A fetch goes on with a backend. -/
def run {W : Type} (b : Backend W) : Fetch → Activity W (Except ConnectorError AttributeMap)
  | turnedAway _ _ e _ => .done (.error e)
  | asking s _ _ _ d => (d.run b).bind fun r => .done (s.deliver r)

/-- A fetch that begins does what the connector does. -/
theorem run_begin {W : Type} (b : Backend W) (store : Store) (s : ConnectorSettings) (input : ConnectorInput) :
    (begin store s input).run b = connector s (fun pair => (store.get pair).run b) input := by
  unfold begin
  split
  · next e h => exact (connector_of_error _ h).symm
  · next pair h => exact (connector_of_ok (fun pair => (store.get pair).run b) h).symm

/-- A fetch goes on by one exchange of its store. -/
inductive Moves : Fetch → Exchange → Fetch → Prop
  | asking {s : ConnectorSettings} {input : ConnectorInput} {pair : Pair} {h : s.pair input = .ok pair}
    {d d' : Dialogue (Except StoreError String)} {x : Exchange} (hstep : d.Step x d') :
    Moves (asking s input pair h d) x (asking s input pair h d')

/-- Who calls the store for a fetch. For one that was turned away nobody ever goes on. -/
def caller (store : Store) : Fetch → Caller
  | turnedAway .. => .getting ⟨"", ""⟩ (store.get ⟨"", ""⟩)
  | asking _ _ pair _ d => .getting pair d

theorem starts_caller (store : Store) (s : ConnectorSettings) (input : ConnectorInput) :
    ((begin store s input).caller store).Starts store := by
  unfold begin
  split
  · exact .get _
  · exact .get _

theorem Moves.caller {f f' : Fetch} {x : Exchange} (h : f.Moves x f') :
    (f.caller store).Moves x (f'.caller store) := by
  cases h with
  | asking hstep => exact .getting hstep

/-- A fetch is turned away when its request lacks something, and only then. -/
theorem lacks_iff {f : Fetch} : f.settings.Lacks f.input ↔ ∃ e, IsInputError e ∧ f.answer? = some (.error e) := by
  constructor
  · intro hlacks
    cases f with
    | turnedAway s input e h => exact ⟨e, (ConnectorSettings.lacks_of_pair h).1, rfl⟩
    | asking s input pair h d => exact absurd hlacks (ConnectorSettings.pair_eq_ok_iff.1 h).not_lacks
  · rintro ⟨e, hinput, hanswer⟩
    match f, hanswer with
    | turnedAway s input e h, _ => exact (ConnectorSettings.lacks_of_pair h).2
    -- what the store answers is no complaint about the input
    | asking s input pair h (.done (.error e')), hanswer =>
      cases hanswer
      cases hinput
    | asking s input pair h (.done (.ok id)), hanswer => cases hanswer

/-- Nothing is asked of the store for a request that lacks something. -/
theorem not_moves_of_lacks {f f' : Fetch} {x : Exchange} (h : f.settings.Lacks f.input) : ¬ f.Moves x f' := by
  intro hmoves
  cases hmoves with
  | @asking s input pair hpair => exact (ConnectorSettings.pair_eq_ok_iff.1 hpair).not_lacks h

/-- A fetch succeeds with an identifier that the store gives out for its pair. -/
theorem of_ok (store : Store) {f : Fetch} {released : AttributeMap} (h : f.answer? = some (.ok released)) :
    ∃ pair id, Except.ok released = f.settings.deliver (.ok id) ∧ f.settings.Names f.input pair ∧
      f.caller store = .getting pair (.done (.ok id)) := by
  match f, h with
  | asking s input pair hpair (.done (.ok id)), h =>
    exact ⟨pair, id, (Option.some.inj h).symm, ConnectorSettings.pair_eq_ok_iff.1 hpair, rfl⟩

end Fetch

/-- A dialogue in which no retirement is asked for. -/
inductive Dialogue.RetiresNone {α : Type} : Dialogue α → Prop
  | done (a : α) : RetiresNone (.done a)
  | find {pair : Pair} {next : Except StoreError (Option String) → Dialogue α} (h : ∀ r, RetiresNone (next r)) :
    RetiresNone (.find pair next)
  | insert {pair : Pair} {id : String} {next : Except StoreError Unit → Dialogue α} (h : ∀ r, RetiresNone (next r)) :
    RetiresNone (.insert pair id next)
  | draw {next : String → Dialogue α} (h : ∀ id, RetiresNone (next id)) : RetiresNone (.draw next)
  | toss {next : Float → Dialogue α} (h : ∀ chance, RetiresNone (next chance)) : RetiresNone (.toss next)
  | sleep {ms : Nat} {next : Dialogue α} (h : RetiresNone next) : RetiresNone (.sleep ms next)

namespace Dialogue.RetiresNone

variable {α β : Type}

theorem bind {d : Dialogue α} (h : d.RetiresNone) {k : α → Dialogue β} (hk : ∀ a, (k a).RetiresNone) :
    (d.bind k).RetiresNone := by
  induction h with
  | done a => exact hk a
  | find _ ih => exact .find ih
  | insert _ ih => exact .insert ih
  | draw _ ih => exact .draw ih
  | toss _ ih => exact .toss ih
  | sleep _ ih => exact .sleep ih

theorem step {d d' : Dialogue α} {x : Exchange} (h : d.RetiresNone) (hstep : d.Step x d') :
    d'.RetiresNone ∧ ∀ pair answer, x ≠ .deactivated pair answer := by
  cases h with
  | done => cases hstep
  | find h => cases hstep; exact ⟨h _, nofun⟩
  | insert h => cases hstep; exact ⟨h _, nofun⟩
  | draw h => cases hstep; exact ⟨h _, nofun⟩
  | toss h => cases hstep; exact ⟨h _, nofun⟩
  | sleep h => cases hstep; exact ⟨h, nofun⟩

theorem path {d d' : Dialogue α} {xs : List Exchange} (h : d.RetiresNone) (hpath : Path d xs d') :
    d'.RetiresNone := by
  induction hpath with
  | nil => exact h
  | cons hstep _ ih => exact ih (h.step hstep).1

theorem candidate (source : InitialId) (pair : Pair) : (source.candidate pair).RetiresNone := by
  cases source with
  | computed g => exact .done _
  | random => exact .draw .done

theorem allocate (pair : Pair) {candidate : Dialogue String} (h : candidate.RetiresNone) (tries : Nat) :
    (Store.allocate pair candidate tries).RetiresNone := by
  induction tries generalizing candidate with
  | zero => exact .done _
  | succ tries ih =>
    rw [Store.allocate]
    refine h.bind fun id => .insert fun r => ?_
    cases r with
    | ok => exact .done _
    | error e =>
      by_cases hkind : e.kind = .duplicate
      · simp only [hkind, if_true]
        refine .find fun r => ?_
        rcases r with e | _ | id
        · exact .done _
        · exact ih (.draw .done)
        · exact .done _
      · simp only [hkind, if_false]
        exact .done _

theorem getOnce (s : Store) (pair : Pair) : (s.getOnce pair).RetiresNone := by
  rw [Store.getOnce]
  refine .find fun r => ?_
  rcases r with e | _ | id
  · exact .done _
  · exact allocate pair (candidate s.initial pair) _
  · exact .done _

theorem pause (p : RetryPolicy) (earlier : Nat) {d : Dialogue α} (h : d.RetiresNone) :
    (p.pause earlier d).RetiresNone := by
  rw [RetryPolicy.pause]
  split
  · exact .toss fun _ => .sleep h
  · exact .sleep h

theorem retryFrom (p : RetryPolicy) {body : Dialogue (Except StoreError α)} (h : body.RetiresNone)
    (earlier more : Nat) : (p.retryFrom body earlier more).RetiresNone := by
  induction more generalizing earlier with
  | zero => exact h
  | succ more ih =>
    rw [RetryPolicy.retryFrom]
    refine h.bind fun r => ?_
    cases r with
    | ok a => exact .done _
    | error e =>
      by_cases hpass : p.isRetryable e
      · simp only [hpass, if_true]
        exact pause p earlier (ih _)
      · simp only [hpass]
        exact .done _

theorem get (s : Store) (pair : Pair) : (s.get pair).RetiresNone := by
  rw [Store.get]
  refine (retryFrom s.retry (getOnce s pair) _ _).bind fun r => ?_
  cases r with
  | ok id => exact .done _
  | error e =>
    dsimp only
    split <;> exact .done _

end Dialogue.RetiresNone

/-- An insertion takes no identifier from a pair that has one. -/
theorem Holdings.Inserts.stays {h h' : Holdings} {pair pair' : Pair} {id id' : String} {answer : Except StoreError Unit}
    (hinserts : h.Inserts pair id answer h') (hactive : h.active pair' = some id') : h'.active pair' = some id' := by
  have hissue (hadmits : h.Admits pair id) : (h.issue pair id).active pair' = some id' := by
    have hne : pair' ≠ pair := by
      rintro rfl
      rw [hadmits.1] at hactive
      cases hactive
    rwa [active_issue_of_ne hne]
  cases hinserts with
  | stored hadmits => exact hissue hadmits
  | refused => exact hactive
  | lost _ _ hadmits => exact hissue hadmits

/-- What is active stays so as long as no retirement is asked for. -/
theorem Ledger.Answers.stays {σ : Type} {b : Ledger σ} (hb : b.Lawful) {held held' : σ} {x : Exchange}
    (h : b.Answers held x held') (hx : ∀ pair answer, x ≠ .deactivated pair answer) {pair : Pair} {id : String}
    (hactive : (b.holdings held).active pair = some id) : (b.holdings held').active pair = some id := by
  cases x with
  | found other answer => rwa [hb.find_keeps h]
  | inserted other new answer => exact (hb.inserts h).stays hactive
  | deactivated other answer => exact absurd rfl (hx other answer)
  | drew | tossed | slept => cases h; exact hactive

/-! ### Histories of fetches -/

/-- A backend and all fetches that were begun so far. -/
structure FetchScene (σ : Type) where
  held : σ
  fetches : List Fetch

/-- What happens from one moment to the next: nothing, or a fetch begins, or a fetch has a question answered. -/
inductive FetchScene.Step {σ : Type} (b : Ledger σ) (store : Store) (c : FetchScene σ) : FetchScene σ → Prop
  | rests : Step b store c c
  | begins (s : ConnectorSettings) (input : ConnectorInput) :
    Step b store c { c with fetches := c.fetches ++ [Fetch.begin store s input] }
  | moves {i : Nat} {f f' : Fetch} {x : Exchange} {held : σ} (hi : c.fetches[i]? = some f) (hmoves : f.Moves x f')
    (hanswers : b.Answers c.held x held) : Step b store c ⟨held, c.fetches.set i f'⟩

/-- What goes on at a store that connectors share, moment by moment. Nothing was fetched before the first moment. -/
structure FetchHistory {σ : Type} (b : Ledger σ) (store : Store) where
  moment : Nat → FetchScene σ
  first : (moment 0).fetches = []
  step (t : Nat) : (moment t).Step b store (moment (t + 1))

namespace FetchHistory

variable {σ : Type} {b : Ledger σ} {store : Store} {F : FetchHistory b store} {i j t t' : Nat} {f f' : Fetch}
  {pair pair' : Pair} {id id' : String}

/-- The same as the store sees it. -/
def atStore (F : FetchHistory b store) : History b {store} where
  moment t := ⟨(F.moment t).held, (F.moment t).fetches.map (Fetch.caller store)⟩
  first := by rw [F.first, List.map_nil]
  step t := by
    generalize F.moment (t + 1) = next, F.step t = hstep
    cases hstep with
    | rests => exact .rests
    | begins s input =>
      rw [List.map_append]
      exact .starts rfl (Fetch.starts_caller store s input)
    | moves hi hmoves hanswers =>
      rw [List.map_set]
      refine .moves ?_ hmoves.caller hanswers
      rw [List.getElem?_map, hi, Option.map_some]

theorem stays (hb : b.Lawful) (F : FetchHistory b store) (hactive : F.atStore.active t pair = some id) :
    F.atStore.active (t + 1) pair = some id := by
  have hstep := F.step t
  change (b.holdings (F.moment (t + 1)).held).active pair = some id
  generalize F.moment (t + 1) = next at hstep ⊢
  cases hstep with
  | rests => exact hactive
  | begins => exact hactive
  | @moves i f f' x held hi hmoves hanswers =>
    refine hanswers.stays hb ?_ hactive
    cases hmoves with
    | @asking s input asked h d d' x hstep =>
      have hcalls : F.atStore.Calls i 0 t (.getting asked d) := by
        refine ⟨t.zero_le, by simp [atStore, F.first], ?_⟩
        change ((F.moment t).fetches.map (Fetch.caller store))[i]? = _
        rw [List.getElem?_map, hi]
        rfl
      obtain ⟨s, rfl, xs, hcame, -⟩ := hcalls.came
      cases hcame with
      | getting hpath => exact (((Dialogue.RetiresNone.get s asked).path hpath).step hstep).2

theorem keeps (hb : b.Lawful) (F : FetchHistory b store) (last : Nat) (pair : Pair) : F.atStore.Keeps 0 last pair := by
  intro t _ _ hactive
  obtain ⟨id, hid⟩ := Option.ne_none_iff_exists'.1 hactive
  rw [stays hb F hid]
  exact Option.some_ne_none id

/-- By some moment a fetch has delivered an identifier. -/
def Yields (F : FetchHistory b store) (i t : Nat) (f : Fetch) (id : String) : Prop :=
  (F.moment t).fetches[i]? = some f ∧ f.answer? = some (f.settings.deliver (.ok id))

theorem Yields.gets (h : F.Yields i t f id) : ∃ pair, f.settings.Names f.input pair ∧ F.atStore.Gets i 0 t pair id := by
  obtain ⟨hi, hanswer⟩ := h
  obtain ⟨pair, id', hdeliver, hnames, hcaller⟩ := Fetch.of_ok store hanswer
  cases ConnectorSettings.deliver_injective hdeliver
  refine ⟨pair, hnames, t.zero_le, by simp [atStore, F.first], ?_⟩
  change ((F.moment t).fetches.map (Fetch.caller store))[i]? = _
  rw [List.getElem?_map, hi, Option.map_some, hcaller]

/-- One pair has one identifier at all times, and an identifier is that of one pair. -/
theorem gets_eq_iff (hb : b.Lawful) (hfallback : store.fallback = none)
    (hsound : (b.holdings (F.moment 0).held).Sound) (h : F.atStore.Gets i 0 t pair id)
    (h' : F.atStore.Gets j 0 t' pair' id') : id = id' ↔ pair = pair' := by
  have hstores : ∀ s ∈ ({store} : Set Store), s.fallback = none := by
    rintro s rfl
    exact hfallback
  obtain ⟨u, -, -, hactive⟩ := History.Gets.active hb hstores h
  obtain ⟨u', -, -, hactive'⟩ := History.Gets.active hb hstores h'
  constructor
  · rintro rfl
    rcases Nat.le_total u u' with hu | hu
    · exact (History.active_unique hb hsound hu hactive hactive').symm
    · exact History.active_unique hb hsound hu hactive' hactive
  · rintro rfl
    -- the identifier that was active first still is when the other one is given out
    refine Option.some.inj ?_
    rcases Nat.le_total u u' with hu | hu
    · rw [← hactive', (keeps hb F u' pair).active hb u.zero_le (Nat.le_refl u') hactive hu]
    · rw [← hactive, (keeps hb F u pair).active hb u'.zero_le (Nat.le_refl u) hactive' hu]

end FetchHistory

/-- Identifiers link requests as configured. -/
theorem ids_link_pairs {σ : Type} {b : Ledger σ} (hb : b.Lawful) {store : Store} (hfallback : store.fallback = none)
    (F : FetchHistory b store) (hsound : (b.holdings (F.moment 0).held).Sound) :
    (∀ (W : Type) (backend : Backend W) s input,
      (Fetch.begin store s input).run backend = connector s (fun pair => (store.get pair).run backend) input) ∧
    (∀ s input, (s.Lacks input ↔ ∃ e, IsInputError e ∧
        ∀ (W : Type) (get : Pair → Activity W (Except StoreError String)), connector s get input = .done (.error e)) ∧
      (¬ s.Lacks input → ∃ pair, (∀ pair', s.Names input pair' ↔ pair' = pair) ∧
        ∀ (W : Type) (get : Pair → Activity W (Except StoreError String)),
          connector s get input = (get pair).bind fun r => .done (s.deliver r))) ∧
    (∀ i t f, (F.moment t).fetches[i]? = some f →
      (f.settings.Lacks f.input ↔ ∃ e, IsInputError e ∧ f.answer? = some (.error e)) ∧
      (f.settings.Lacks f.input → ∀ x f', ¬ f.Moves x f') ∧
      ∀ released, f.answer? = some (.ok released) → ∃ id, F.Yields i t f id) ∧
    (∀ i j t t' f f' id id', F.Yields i t f id → F.Yields j t' f' id' →
      ∃ pair pair', f.settings.Names f.input pair ∧ f'.settings.Names f'.input pair' ∧
        (id = id' ↔ pair.relyingParty = pair'.relyingParty ∧ pair.principal = pair'.principal)) ∧
    (∀ (s : ConnectorSettings) (groups : List (String × String)) input key, s.affinity = .ofList groups →
      (s.RelyingParty input key ↔ ∃ requester, input.request.requester = some requester ∧ requester ≠ "" ∧
        key = (groups.reverse.lookup requester).getD requester)) ∧
    ∀ (s : ConnectorSettings) input input', s.Agree input input' →
      ∀ (W : Type) (get : Pair → Activity W (Except StoreError String)), connector s get input = connector s get input' := by
  refine ⟨fun W backend s input => Fetch.run_begin backend store s input, fun s input => ⟨lacks_iff_turned_away, ?_⟩,
    fun i t f hi => ⟨Fetch.lacks_iff, fun hlacks x f' => Fetch.not_moves_of_lacks hlacks, ?_⟩, ?_, ?_, ?_⟩
  · exact serves_of_not_lacks
  · intro released hanswer
    obtain ⟨-, id, hdeliver, -⟩ := Fetch.of_ok store hanswer
    exact ⟨id, hi, hdeliver ▸ hanswer⟩
  · intro i j t t' f f' id id' h h'
    obtain ⟨pair, hnames, hgets⟩ := h.gets
    obtain ⟨pair', hnames', hgets'⟩ := h'.gets
    refine ⟨pair, pair', hnames, hnames', ?_⟩
    rw [FetchHistory.gets_eq_iff hb hfallback hsound hgets hgets']
    cases pair
    cases pair'
    exact Iff.of_eq (Pair.mk.injEq ..)
  · intro s groups input key hgroups
    simp only [ConnectorSettings.RelyingParty, hgroups, Keyed.get?_ofList]
  · intro s input input' hagree W get
    exact connector_congr get hagree

/-! Two connectors give one principal for members of one group. Somebody else is given something else, and who does not
say who asks is given nothing. -/

namespace Linked

open Race (store)

def request (requester : Option String) (principal : String) : Request :=
  { principal, requester }

/-- Gives identifiers for the principals of requests. -/
def direct : ConnectorSettings where
  key := "pairwiseId"
  affinity := .ofList [("https://a.example", "staff"), ("https://a.example", "campus")]

/-- Gives identifiers for what an attribute holds. -/
def derived : ConnectorSettings where
  key := "subjectId"
  sourceKey := some "uid"
  affinity := .ofList [("https://b.example", "campus")]

def alice : ConnectorInput := ⟨request (some "https://a.example") "alice", .empty⟩

def uid : ConnectorInput :=
  ⟨request (some "https://b.example") "somebody", .ofAttributes [.ofValues "uid" [.string "alice"]]⟩

def bob : ConnectorInput := ⟨request (some "https://a.example") "bob", .empty⟩

def nobody : ConnectorInput := ⟨request none "alice", .empty⟩

def shared : Pair := ⟨"campus", "alice"⟩

def other : Pair := ⟨"campus", "bob"⟩

def first (d : Dialogue (Except StoreError String)) : Fetch := .asking direct alice shared rfl d

def second (d : Dialogue (Except StoreError String)) : Fetch := .asking derived uid shared rfl d

def third (d : Dialogue (Except StoreError String)) : Fetch := .asking direct bob other rfl d

def away : Fetch := .turnedAway direct nobody (.missingInput "requester") rfl

def told (pair : Pair) (xs : List Exchange) : Dialogue (Except StoreError String) := (store.get pair).tell xs

def tooLate : StoreError := ⟨.duplicate, "pair already has an active identifier"⟩

def issued : Register := ⟨[(shared, "x")], ["x"]⟩

def scene : Nat → FetchScene Register
  | 0 => ⟨{}, []⟩
  | 1 => ⟨{}, [first (told shared [])]⟩
  | 2 => ⟨{}, [first (told shared []), second (told shared [])]⟩
  | 3 => ⟨{}, [first (told shared []), second (told shared []), away]⟩
  | 4 => ⟨{}, [first (told shared [.found shared (.ok none)]), second (told shared []), away]⟩
  | 5 => ⟨{}, [first (told shared [.found shared (.ok none)]), second (told shared [.found shared (.ok none)]), away]⟩
  | 6 => ⟨{}, [first (told shared [.found shared (.ok none), .drew "x"]),
      second (told shared [.found shared (.ok none)]), away]⟩
  | 7 => ⟨issued, [first (.done (.ok "x")), second (told shared [.found shared (.ok none)]), away]⟩
  | 8 => ⟨issued, [first (.done (.ok "x")), second (told shared [.found shared (.ok none), .drew "y"]), away]⟩
  | 9 => ⟨issued, [first (.done (.ok "x")),
      second (told shared [.found shared (.ok none), .drew "y", .inserted shared "y" (.error tooLate)]), away]⟩
  | 10 => ⟨issued, [first (.done (.ok "x")), second (.done (.ok "x")), away]⟩
  | 11 => ⟨issued, [first (.done (.ok "x")), second (.done (.ok "x")), away, third (told other [])]⟩
  | 12 => ⟨issued, [first (.done (.ok "x")), second (.done (.ok "x")), away,
      third (told other [.found other (.ok none)])]⟩
  | 13 => ⟨issued, [first (.done (.ok "x")), second (.done (.ok "x")), away,
      third (told other [.found other (.ok none), .drew "y"])]⟩
  | _ + 14 => ⟨⟨[(other, "y"), (shared, "x")], ["y", "x"]⟩,
      [first (.done (.ok "x")), second (.done (.ok "x")), away, third (.done (.ok "y"))]⟩

def history : FetchHistory Register.ledger store where
  moment := scene
  first := rfl
  step
    | 0 => .begins direct alice
    | 1 => .begins derived uid
    | 2 => .begins direct nobody
    | 3 => .moves (i := 0) rfl (.asking (.find (.ok none))) ⟨rfl, rfl⟩
    | 4 => .moves (i := 1) rfl (.asking (.find (.ok none))) ⟨rfl, rfl⟩
    | 5 => .moves (i := 0) rfl (.asking (.draw "x")) rfl
    | 6 => .moves (i := 0) rfl (.asking (.insert (.ok ()))) rfl
    | 7 => .moves (i := 1) rfl (.asking (.draw "y")) rfl
    | 8 => .moves (i := 1) rfl (.asking (.insert (.error tooLate))) rfl
    | 9 => .moves (i := 1) rfl (.asking (.find (.ok (some "x")))) ⟨rfl, rfl⟩
    | 10 => .begins direct bob
    | 11 => .moves (i := 3) rfl (.asking (.find (.ok none))) ⟨rfl, rfl⟩
    | 12 => .moves (i := 3) rfl (.asking (.draw "y")) rfl
    | 13 => .moves (i := 3) rfl (.asking (.insert (.ok ()))) rfl
    | _ + 14 => .rests

theorem ids_link_pairs_of_linked :
    history.Yields 0 14 (first (.done (.ok "x"))) "x" ∧ history.Yields 1 14 (second (.done (.ok "x"))) "x" ∧
      history.Yields 3 14 (third (.done (.ok "y"))) "y" ∧ direct.Lacks nobody ∧
      (∃ e, IsInputError e ∧ away.answer? = some (.error e)) ∧
      (∀ t f id, history.Yields 1 t f id → f.input = uid → f.settings = derived → id = "x") ∧
      ∀ t f id, history.Yields 3 t f id → f.input = bob → f.settings = direct → id ≠ "x" := by
  have hfirst : history.Yields 0 14 (first (.done (.ok "x"))) "x" := ⟨rfl, rfl⟩
  have hnames : direct.Names alice shared := ConnectorSettings.pair_eq_ok_iff.1 rfl
  obtain ⟨-, -, hfetch, hlinked, -⟩ := ids_link_pairs Register.ledger_lawful rfl history Register.sound_empty
  have haway := (hfetch 2 14 away rfl).1
  refine ⟨hfirst, ⟨rfl, rfl⟩, ⟨rfl, rfl⟩, .requester rfl, haway.1 (.requester rfl), ?_, ?_⟩
  · rintro t f id hyields hinput hsettings
    obtain ⟨pair, pair', hpair, hpair', hiff⟩ := hlinked 1 0 t 14 f _ id "x" hyields hfirst
    rw [hinput, hsettings] at hpair
    have hshared : derived.Names uid shared := ConnectorSettings.pair_eq_ok_iff.1 rfl
    cases hpair.unique hshared
    cases hpair'.unique hnames
    exact hiff.2 ⟨rfl, rfl⟩
  · rintro t f id hyields hinput hsettings rfl
    obtain ⟨pair, pair', hpair, hpair', hiff⟩ := hlinked 3 0 t 14 f _ "x" "x" hyields hfirst
    rw [hinput, hsettings] at hpair
    have hother : direct.Names bob other := ConnectorSettings.pair_eq_ok_iff.1 rfl
    cases hpair.unique hother
    cases hpair'.unique hnames
    exact absurd (hiff.1 rfl).2 (by decide)

end Linked

end AttributeRelease.Pairwise
