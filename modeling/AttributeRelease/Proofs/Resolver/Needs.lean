import AttributeRelease.Proofs.Resolver.Refinement

/-!
What a call needs. It needs the nodes that it starts from, with a node all that the node depends on, and with one that
fails by itself its failover. Nothing else is asked for. So a call that comes to attributes has settled just what it
needs, with outcomes that are worked out without regard to what else the call is for; and if nothing that it needs is
fated to fail it never breaks off anything, and no node of it begins twice.
-/

namespace AttributeRelease

namespace Resolver

variable {W : Type}

namespace Premises

/-- What a node that does not fail is settled with. -/
def outcome (p : Premises W) (n : Node W) : Outcome :=
  match p.attempt p.fate n with
  | .ok m => .resolved m
  | .error e =>
    match n.failover with
    | some failover => .resolved (p.fate failover).attributes
    | none => .suppressed e

/-- What is needed for the attributes that are asked for. -/
inductive Needs (p : Premises W) (requested : List String) : String → Prop
  | root {n : Node W} (hroot : n ∈ p.graph.roots requested) : Needs p requested n.id
  | dependency {n : Node W} {d : Dependency} (h : Needs p requested n.id) (hnode : p.graph.node? n.id = some n)
    (hd : d ∈ n.dependencies) : Needs p requested d.node
  | failover {n : Node W} {e : ResolutionError} {failover : String} (h : Needs p requested n.id)
    (hnode : p.graph.node? n.id = some n) (hattempt : p.attempt p.fate n = .error e)
    (hfailover : n.failover = some failover) : Needs p requested failover

variable {p : Premises W} {requested requested' : List String} {n : Node W}

/-- Whoever starts from more needs more. -/
theorem Needs.mono (hroots : p.graph.roots requested ⊆ p.graph.roots requested') {id : String}
    (h : p.Needs requested id) : p.Needs requested' id := by
  induction h with
  | root hroot => exact .root (hroots hroot)
  | dependency _ hnode hd ih => exact .dependency ih hnode hd
  | failover _ hnode hattempt hfailover ih => exact .failover ih hnode hattempt hfailover

/-- What is needed is in the graph. -/
theorem Needs.known {id : String} (h : p.Needs requested id) : ∃ n, p.graph.node? id = some n := by
  cases h with
  | root hroot =>
    have hsound := Graph.sound_of_error? p.graph.valid
    exact ⟨_, Graph.findNode_of_mem hsound.nodup (Graph.mem_of_mem_roots _ _ hroot)⟩
  | dependency _ hnode hd => exact known_dependency hnode (List.mem_map_of_mem hd)
  | failover _ hnode _ hfailover => exact known_failover hnode hfailover

theorem outcome_of_ok {m : AttributeMap} (h : p.attempt p.fate n = .ok m) : p.outcome n = .resolved m := by
  rw [outcome, h]

theorem outcome_of_failover {e : ResolutionError} (h : p.attempt p.fate n = .error e) {failover : String}
    (hfailover : n.failover = some failover) : p.outcome n = .resolved (p.fate failover).attributes := by
  rw [outcome, h, hfailover]

theorem outcome_of_error {e : ResolutionError} (h : p.attempt p.fate n = .error e) (hfailover : n.failover = none) :
    p.outcome n = .suppressed e := by
  rw [outcome, h, hfailover]

end Premises

/-- All that a node needs to come to its outcome is settled. -/
structure Provided (p : Premises W) (s : Session W) (n : Node W) : Prop where
  dependencies : ∀ d ∈ n.dependencies, s.standing d.node = .ended
  failover : ∀ e failover, p.attempt p.fate n = .error e → n.failover = some failover →
    s.standing failover = .ended

/-- A node that is not idle is needed, and one that has ended has come to its outcome from what it needs. -/
inductive Warrants (p : Premises W) (requested : List String) (s : Session W) (id : String) : Stage W → Prop
  | idle : Warrants p requested s id .idle
  | evaluated {asker : Asker} {phase : Phase W} (h : p.Needs requested id) :
    Warrants p requested s id (.evaluated asker phase)
  | failed {e : ResolutionError} (h : p.Needs requested id) : Warrants p requested s id (.settled (.failed e))
  | ended {n : Node W} {o : Outcome} (h : p.Needs requested id) (hnode : p.graph.node? id = some n)
    (ho : o = p.outcome n) (hprovided : Provided p s n) : Warrants p requested s id (.settled o)

section

variable {b : Behaviour} {g : Graph W} {p : Premises W} {requested : List String} {wide : Prop} {s t : Session W}

theorem Provided.mono {n : Node W} (h : Provided p s n) (hlater : Later s t) : Provided p t n where
  dependencies d hd := hlater.ended (h.dependencies d hd)
  failover e failover hattempt hfailover := hlater.ended (h.failover e failover hattempt hfailover)

theorem Warrants.mono {id : String} {stage : Stage W} (h : Warrants p requested s id stage) (hlater : Later s t) :
    Warrants p requested t id stage := by
  cases h with
  | idle => exact .idle
  | evaluated h => exact .evaluated h
  | failed h => exact .failed h
  | ended h hnode ho hprovided => exact .ended h hnode ho (hprovided.mono hlater)

/-- A call has to do only with what it needs. -/
structure Grounded (b : Behaviour) (g : Graph W) (s : Session W) : Prop where
  warrants : ∀ id, Warrants (s.call.premises b g) s.call.requested s id (s.stage id)
  begun : ∀ e ∈ s.shared.log, ∀ id, e.starts s.call.number id = true →
    (s.call.premises b g).Needs s.call.requested id

namespace Grounded

theorem needed (h : Grounded b g s) {id : String} (hstage : s.stage id ≠ .idle) :
    (s.call.premises b g).Needs s.call.requested id := by
  have hwarrants := h.warrants id
  generalize s.stage id = stage at hwarrants hstage
  cases hwarrants with
  | idle => exact absurd rfl hstage
  | evaluated h | failed h | ended h => exact h

theorem evaluated (h : Grounded b g s) {id : String} {asker : Asker} {phase : Phase W}
    (hstage : s.stage id = .evaluated asker phase) : (s.call.premises b g).Needs s.call.requested id :=
  h.needed fun hidle => by cases hstage.symm.trans hidle

theorem ended (h : Grounded b g s) {n : Node W} (hnode : g.node? n.id = some n) (hended : s.standing n.id = .ended) :
    s.stage n.id = .settled ((s.call.premises b g).outcome n) ∧ Provided (s.call.premises b g) s n := by
  obtain ⟨o, ho, hstanding⟩ := Session.settled_of_ended hended
  have hwarrants := h.warrants n.id
  rw [ho] at hwarrants
  cases hwarrants with
  | failed => cases hstanding
  | ended _ hnode' houtcome hprovided =>
    obtain rfl := Option.some.inj (hnode.symm.trans hnode')
    exact ⟨houtcome ▸ ho, hprovided⟩

/-- **A call whose roots have ended has settled all that it needs.** -/
theorem complete (h : Grounded b g s) (hroots : ∀ id ∈ wanted g s.call none, s.standing id = .ended) {id : String}
    (hneeds : (s.call.premises b g).Needs s.call.requested id) : s.standing id = .ended := by
  induction hneeds with
  | root hroot => exact hroots _ (List.mem_map_of_mem hroot)
  | dependency _ hnode hd ih => exact (h.ended hnode ih).2.dependencies _ hd
  | failover _ hnode hattempt hfailover ih => exact (h.ended hnode ih).2.failover _ _ hattempt hfailover

/-- Whatever is asked for is needed. -/
theorem asking (h : Grounded b g s) (hfaithful : Faithful b g s) {asker : Asker} {id : String}
    (hasking : Asking g s asker id) : (s.call.premises b g).Needs s.call.requested id := by
  cases hasking with
  | @member holder group place _ hgroup hid =>
    have hmem := List.mem_of_getElem? hid
    cases holder with
    | none =>
      obtain ⟨n, hn, rfl⟩ := List.mem_map.1 hmem
      exact .root hn
    | some x =>
      obtain ⟨asker, hstage⟩ := Session.group?_node_eq_some hgroup
      have hneeds := h.evaluated hstage
      obtain ⟨n, hn⟩ := hneeds.known
      obtain rfl := (Graph.findNode_some hn).2
      rw [wanted_node (g := g) s.call hn] at hmem
      obtain ⟨d, hd, rfl⟩ := List.mem_map.1 hmem
      exact .dependency hneeds hn hd
  | failover hnode hfailover hstage =>
    exact .failover (h.evaluated hstage) hnode (hfaithful.erred hnode hstage) hfailover

/-! ### Moves -/

/-- Nodes go on, and what begins has been evaluated before. -/
theorem later (h : Grounded b g s) (hlater : Later s t) {es : List Event} (hlog : t.shared.log = es ++ s.shared.log)
    (hes : ∀ e ∈ es, ∀ id, e.starts s.call.number id = true → s.stage id ≠ .idle)
    (hstage : ∀ x, t.stage x = s.stage x ∨ Warrants (s.call.premises b g) s.call.requested t x (t.stage x)) :
    Grounded b g t := by
  have hpremises : t.call.premises b g = s.call.premises b g := by rw [hlater.call]; rfl
  have hrequested : t.call.requested = s.call.requested := by rw [hlater.call]
  refine ⟨fun x => ?_, fun e he id hstart => ?_⟩
  · rw [hpremises, hrequested]
    rcases hstage x with hsame | hnew
    · rw [hsame]
      exact (h.warrants x).mono hlater
    · exact hnew
  · rw [hpremises, hrequested]
    rw [hlog] at he
    rw [hlater.number] at hstart
    rcases List.mem_append.1 he with he | he
    · exact h.needed (hes e he id hstart)
    · exact h.begun e he id hstart

/-- Nothing is put down, and no node is settled. -/
theorem silent (h : Grounded b g s) (hlater : Later s t) (hlog : t.shared.log = s.shared.log)
    (hstage : ∀ x, t.stage x = s.stage x ∨ Warrants (s.call.premises b g) s.call.requested t x (t.stage x)) :
    Grounded b g t := by
  have hnothing : t.shared.log = [] ++ s.shared.log := hlog
  exact h.later hlater hnothing (List.forall_mem_nil _) hstage

theorem stretch (h : Grounded b g s) {asker : Asker} {id : String} {es : List Event}
    (hstretch : Stretch g asker id es s t) : Grounded b g t := by
  have hspares := hstretch.spares
  refine h.later (.of_spares hspares) hspares.log (fun e he x hstart => ?_)
    fun x => .inl (Session.stage_of_spares hspares x)
  rcases hstretch.event he with (rfl | ⟨r, rfl⟩) | ⟨hbegins, -⟩
  · simp [Event.starts] at hstart
  · rw [Event.starts_own] at hstart
    cases hstart
  · obtain ⟨phase, hstage⟩ := hstretch.evaluated
    obtain rfl : x = id := by rcases hbegins with rfl | rfl <;> simpa [Event.starts, eq_comm] using hstart
    intro hidle
    cases hstage.symm.trans hidle

/-- The cell of one node changes that was not settled. -/
theorem alters (h : Grounded b g s) {id : String} {es : List Event} (halters : Alters id es s t)
    (hlater : Later s t) (hes : ∀ e ∈ es, ∀ x, e.starts s.call.number x = false)
    (hwarrants : Warrants (s.call.premises b g) s.call.requested t id (t.stage id)) : Grounded b g t := by
  refine h.later hlater halters.log (fun e he x hstart => ?_) fun x => ?_
  · rw [hes e he x] at hstart
    cases hstart
  · by_cases hx : x = id
    · exact .inr (hx ▸ hwarrants)
    · exact .inl (Session.stage_of_alters halters hx)

section

variable {n : Node W} {asker : Asker} {phase : Phase W} (hstage : s.stage n.id = .evaluated asker phase)

include hstage

theorem setPhase (h : Grounded b g s) (phase' : Phase W) : Grounded b g (s.setPhase n.id asker phase') := by
  have halters := s.alters_setPhase n.id asker phase'
  refine h.alters halters (.of_alters halters fun o ho => ?_) (List.forall_mem_nil _) ?_
  · rw [hstage] at ho
    cases ho
  · rw [s.stage_setPhase]
    exact .evaluated (h.evaluated hstage)

/-- A node is settled, unless it has failed with what it comes to. -/
theorem settle (h : Grounded b g s) (hnode : g.node? n.id = some n) {o : Outcome}
    (ho : o.standing = .ended → o = (s.call.premises b g).outcome n ∧ Provided (s.call.premises b g) s n) :
    Grounded b g (s.settle n.id o) := by
  have halters := s.alters_settle n.id o
  have hlater : Later s (s.settle n.id o) := .of_alters halters fun o' ho' => by
    rw [hstage] at ho'
    cases ho'
  have hneeds := h.evaluated hstage
  refine h.alters halters hlater (fun e he x => ?_) ?_
  · rw [List.mem_singleton.1 he]
    simp [Event.starts]
  · rw [s.stage_settle]
    cases o with
    | failed => exact .failed hneeds
    | resolved | suppressed =>
      obtain ⟨houtcome, hprovided⟩ := ho rfl
      exact .ended hneeds hnode houtcome (hprovided.mono hlater)

end

theorem drops (h : Grounded b g s) {crowd : Option Nat} (hdrops : Drops crowd s t) : Grounded b g t := by
  obtain ⟨es, hlog, hes⟩ := hdrops.log
  refine h.later (.of_drops hdrops) hlog (fun e he x hstart => ?_) fun x => ?_
  · obtain ⟨id, rfl⟩ := hes e he
    simp [Event.starts] at hstart
  · rcases hdrops.stage x with hsame | ⟨-, hidle⟩
    · exact .inl hsame
    · exact .inr (hidle ▸ .idle)

/-- A node that comes to something by itself comes to what it should, with all that it depends on settled. -/
theorem attempted (h : Grounded b g s) (hfaithful : Faithful b g s) (hb : b.Governs g) (hs : Coherent g wide s)
    {n : Node W} {asker : Asker} {r : Except ResolutionError AttributeMap} (hattempted : Attempted g asker n r s t) :
    Grounded b g t ∧ (∃ phase, t.stage n.id = .evaluated asker phase) ∧
      (t.call.premises b g).attempt (t.call.premises b g).fate n = r ∧
      ∀ d ∈ n.dependencies, t.standing d.node = .ended := by
  obtain ⟨es, hstretch⟩ := hattempted.stretch
  have hspares := hstretch.spares
  have hlater : Later s t := .of_spares hspares
  have hpremises : t.call.premises b g = s.call.premises b g := by rw [hspares.call]
  obtain ⟨phase, hstage⟩ := hstretch.evaluated
  refine ⟨h.stretch hstretch, ⟨phase, (Session.stage_of_spares hspares n.id).trans hstage⟩, ?_, fun d hd => ?_⟩
  · rw [hpremises]
    exact (hfaithful.attempted hb hs hattempted).1
  · exact hlater.ended ((hstretch.supplied hs).ended hattempted.node hd)

theorem falls (h : Grounded b g s) (hfalls : Falls g s t) : Grounded b g t := by
  cases hfalls with
  | givesUp hnode _ hstage => exact h.settle hstage hnode fun ho => by cases ho
  | follows hnode hstage _ _ hdrops hkept =>
    exact (h.drops hdrops).settle (hkept.trans hstage) hnode fun ho => by cases ho

/-- **Moves have to do only with what is needed.** -/
theorem move (h : Grounded b g s) (hfaithful : Faithful b g s) (hb : b.Governs g) (hs : Coherent g wide s)
    {fails : Bool} (hmove : Move g fails s t) : Grounded b g t := by
  have hlater := hmove.later hs
  cases hmove with
  | rests _ _ hstage _ _ hlog => exact h.silent hlater hlog fun x => .inl (hstage x)
  | notes => exact h.silent hlater rfl fun _ => .inl rfl
  | embarks _ hstart =>
    obtain ⟨hcall, hlog, -⟩ := opens_start hstart
    exact h.silent hlater hlog fun x => .inl (Session.stage_congr (congrArg Call.cells hcall) x)
  | @enters _ t u n asker w group _ henter hstart hasking =>
    obtain ⟨-, halters, -⟩ := Session.enterCell_enters (hs.fits n.id) henter
    obtain ⟨hcall, hlog, -⟩ := opens_start hstart
    refine h.silent hlater (hlog.trans halters.log) fun x => ?_
    by_cases hx : x = n.id
    · subst hx
      rw [u.stage_setPhase]
      exact .inr (.evaluated (h.asking hfaithful hasking))
    · exact .inl (Session.stage_setPhase_of_ne halters hcall asker _ hx)
  | @queues _ t c asker w phase hnode hstage _ _ hpermit =>
    have htake := s.spares_takePermit c.id w
    rw [hpermit] at htake
    have ht := h.silent (.of_spares htake) htake.log fun x => .inl (Session.stage_of_spares htake x)
    exact ht.setPhase (n := .connector c) ((Session.stage_of_spares htake c.id).trans hstage) .queued
  | @fetches _ _ _ c _ _ _ _ hunderway hwaits =>
    obtain ⟨es, u, fetch, limit, hstretch, rfl⟩ := hunderway.waits hwaits
    obtain ⟨phase, hstage⟩ := hstretch.evaluated
    exact (h.stretch hstretch).setPhase (n := .connector c)
      ((Session.stage_of_spares hstretch.spares c.id).trans hstage) (.fetching fetch limit)
  | succeeds hattempted =>
    obtain ⟨ht, ⟨phase, hstage⟩, hattempt, hdependencies⟩ := h.attempted hfaithful hb hs hattempted
    refine ht.settle hstage hattempted.node fun _ => ⟨(Premises.outcome_of_ok hattempt).symm, hdependencies, ?_⟩
    intro e failover herror
    rw [hattempt] at herror
    cases herror
  | turnsOver hattempted =>
    obtain ⟨ht, ⟨phase, hstage⟩, -⟩ := h.attempted hfaithful hb hs hattempted
    exact ht.setPhase hstage _
  | isSpared hattempted hnone =>
    obtain ⟨ht, ⟨phase, hstage⟩, hattempt, hdependencies⟩ := h.attempted hfaithful hb hs hattempted
    refine ht.settle hstage hattempted.node fun _ =>
      ⟨(Premises.outcome_of_error hattempt hnone).symm, hdependencies, fun e failover _ hfailover => ?_⟩
    rw [hnone] at hfailover
    cases hfailover
  | breaks hattempted =>
    obtain ⟨ht, ⟨phase, hstage⟩, -⟩ := h.attempted hfaithful hb hs hattempted
    exact ht.settle hstage hattempted.node fun ho => by cases ho
  | @adopts _ n _ _ failover hnode hfailover hstage hended =>
    have hattempt := hfaithful.erred hnode hstage
    refine h.settle hstage hnode fun _ => ⟨?_, fun d hd => ?_, fun e' failover' _ hfailover' => ?_⟩
    · rw [Premises.outcome_of_failover hattempt hfailover, (hfaithful.ended hended).2]
    · exact (hs.supplied n.id _ _ hstage rfl).ended hnode hd
    · obtain rfl := Option.some.inj (hfailover.symm.trans hfailover')
      exact hended
  | falls hfalls => exact h.falls hfalls

end Grounded

/-- Nothing that a call needs is fated to fail. -/
def Spared (b : Behaviour) (g : Graph W) (c : Call W) : Prop :=
  ∀ id, (c.premises b g).Needs c.requested id → (c.premises b g).fate id ≠ .failed

theorem Later.spared (h : Later s t) : Spared b g t.call = Spared b g s.call := by
  rw [h.call]
  rfl

/-- If nothing is to fail, nothing has failed. -/
theorem Grounded.not_failed (h : Grounded b g s) (hspared : Spared b g s.call)
    (hfate : ∀ id o, s.outcome? id = some o → o.fate = (s.call.premises b g).fate id) (id : String) :
    s.standing id ≠ .failed := by
  intro hfailed
  have hsettled := Session.settled_of_failed hfailed
  have hneeds := h.needed fun hidle => by cases hsettled.symm.trans hidle
  exact hspared id hneeds (hfate id _ (Session.outcome?_eq_some_iff.2 hsettled)).symm

/-- What is known of a call under way. -/
structure Proceeds (b : Behaviour) (g : Graph W) (wide : Prop) (s : Session W) : Prop where
  coherent : Coherent g wide s
  faithful : Faithful b g s
  grounded : Grounded b g s
  calm : Spared b g s.call → Calm 0 s

theorem Proceeds.move (h : Proceeds b g wide s) (hb : b.Governs g) {fails : Bool} (hmove : Move g fails s t) :
    Proceeds b g wide t := by
  have hfaithful := h.faithful.move hb h.coherent hmove
  have hgrounded := h.grounded.move h.faithful hb h.coherent hmove
  refine ⟨h.coherent.move hmove, hfaithful, hgrounded, fun hspared => ?_⟩
  cases fails with
  | true =>
    obtain ⟨n, -, -, hfailed⟩ := hmove.fails
    exact absurd hfailed (hgrounded.not_failed hspared
      (fun id o ho => hfaithful.settled (Session.outcome?_eq_some_iff.1 ho)) n.id)
  | false =>
    rw [(hmove.later h.coherent).spared] at hspared
    exact (h.calm hspared).move h.coherent hmove

theorem Proceeds.moves (h : Proceeds b g wide s) (hb : b.Governs g) {fails : Bool} (hmoves : Moves g wide s fails t) :
    Proceeds b g wide t :=
  hmoves.induct (P := Proceeds b g wide) (fun _ _ _ hmove hproceeds => hproceeds.move hb hmove) h

end

/-- What is known of a call at any time: it follows fate, and has to do only with what it needs. -/
structure KeepsToNeeds (b : Behaviour) (g : Graph W) (c : Call W) (sh : Shared W) : Prop where
  follows : FollowsFate b g c sh
  grounded : Grounded b g ⟨c, sh⟩
  once : Spared b g c → StartsOnce ⟨c, sh⟩
  calm : Spared b g c → c.ending = none → Calm 0 ⟨c, sh⟩

theorem KeepsToNeeds.kept {r : Resolver W} {b : Behaviour} (hb : b.Governs r.graph) :
    Kept r InTime (KeepsToNeeds b r.graph) where
  starts c sh hfresh hnew := by
    refine ⟨(FollowsFate.kept hb).starts c sh hfresh hnew, ⟨fun id => ?_, fun e he id hstart => ?_⟩,
      fun _ => (Calm.of_new hnew 0).starts, fun _ _ => .of_new hnew 0⟩
    · rw [hfresh.stage]
      exact .idle
    · exact absurd (Event.call_of_starts hstart) (hnew e he)
  turns s fails t u hending hs h hmoves hcloses := by
    have hfollows := (FollowsFate.kept hb).turns s fails t u hending hs h.follows hmoves hcloses
    have ht : Proceeds b r.graph (Wide r.graph s.call) t :=
      Proceeds.moves ⟨hs, h.follows.faithful hending, h.grounded, fun hspared => h.calm hspared hending⟩ hb hmoves
    have hover : ∀ {v : Session W} (ending : Ending), Later t v → Grounded b r.graph v →
        (StartsOnce t → StartsOnce v) → FollowsFate b r.graph (finish ending v).call (finish ending v).shared →
        KeepsToNeeds b r.graph (finish ending v).call (finish ending v).shared := by
      intro v ending hlater hgrounded honce hfollows
      have hfinish := Later.of_finish ending v
      refine ⟨hfollows, hgrounded.silent hfinish rfl fun _ => .inl rfl, fun hspared => ?_, nofun⟩
      rw [hfinish.spared, hlater.spared] at hspared
      exact (honce (ht.calm hspared).starts).finish ending
    cases hcloses with
    | waits => exact ⟨hfollows, ht.grounded, fun hspared => (ht.calm hspared).starts, fun hspared _ => ht.calm hspared⟩
    | returns => exact hover _ (.of_spares (.refl t)) ht.grounded id hfollows
    | breaks _ _ hdrops => exact hover _ (.of_drops hdrops) (ht.grounded.drops hdrops) (·.drops hdrops) hfollows
    | leaves hdrops => exact hover _ (.of_drops hdrops) (ht.grounded.drops hdrops) (·.drops hdrops) hfollows
  elsewhere c sh sh' helse hclock h := by
    obtain ⟨es, hlog, hes⟩ := helse.log
    refine ⟨(FollowsFate.kept hb).elsewhere c sh sh' helse hclock h.follows, ?_,
      fun hspared => (h.once hspared).elsewhere helse, fun hspared hending => (h.calm hspared hending).elsewhere helse⟩
    exact h.grounded.later (.of_elsewhere helse) hlog
      (fun e he id hstart => absurd (Event.call_of_starts hstart) (hes e he)) fun _ => .inl rfl

namespace KeepsToNeeds

variable {b : Behaviour} {g : Graph W} {c : Call W} {sh : Shared W}

/-- **What is settled is needed, and if nothing was to fail its outcome does not depend on the call.** -/
theorem outcome (h : KeepsToNeeds b g c sh) (hspared : Spared b g c) {id : String} {o : Outcome}
    (ho : Session.outcome? ⟨c, sh⟩ id = some o) :
    (c.premises b g).Needs c.requested id ∧ ∃ n, g.node? id = some n ∧ o = (c.premises b g).outcome n := by
  have hstage := Session.outcome?_eq_some_iff.1 ho
  have hneeds := h.grounded.needed fun hidle => by cases hstage.symm.trans hidle
  obtain ⟨n, hn⟩ := hneeds.known
  obtain rfl := (Graph.findNode_some hn).2
  have hended : Session.standing ⟨c, sh⟩ n.id = .ended := by
    have hfailed := h.grounded.not_failed hspared h.follows.outcomes n.id
    rw [Session.standing_of_settled hstage] at hfailed ⊢
    cases o with
    | resolved | suppressed => rfl
    | failed => exact absurd rfl hfailed
  have hsettled := (h.grounded.ended hn hended).1
  rw [hstage] at hsettled
  exact ⟨hneeds, n, hn, Stage.settled.inj hsettled⟩

/-- **A call whose roots have ended has settled whatever it needs, and nothing of it was to fail.** -/
theorem complete (h : KeepsToNeeds b g c sh)
    (hroots : ∀ id ∈ wanted g c none, Session.standing ⟨c, sh⟩ id = .ended) {id : String}
    (hneeds : (c.premises b g).Needs c.requested id) :
    Session.standing ⟨c, sh⟩ id = .ended ∧ (c.premises b g).fate id ≠ .failed ∧
      ∀ n, g.node? id = some n → Session.outcome? ⟨c, sh⟩ id = some ((c.premises b g).outcome n) := by
  have hended := h.grounded.complete hroots hneeds
  obtain ⟨o, ho, hstanding⟩ := Session.settled_of_ended hended
  refine ⟨hended, fun hfailed => ?_, fun n hn => ?_⟩
  · rw [← h.follows.outcomes id o (Session.outcome?_eq_some_iff.2 ho), Outcome.fate_eq_failed_iff, hstanding]
      at hfailed
    cases hfailed
  · obtain rfl := (Graph.findNode_some hn).2
    exact Session.outcome?_eq_some_iff.2 (h.grounded.ended hn hended).1

/-- **A call that starts from no more than one whose roots have ended comes to the same.** -/
theorem shares (h : KeepsToNeeds b g c sh) (hroots : ∀ id ∈ wanted g c none, Session.standing ⟨c, sh⟩ id = .ended)
    {c' : Call W} {sh' : Shared W} (h' : KeepsToNeeds b g c' sh') (hpremises : c'.premises b g = c.premises b g)
    (hsubset : g.roots c'.requested ⊆ g.roots c.requested) :
    Spared b g c' ∧ (∀ id, (c'.premises b g).Needs c'.requested id → Session.standing ⟨c, sh⟩ id = .ended) ∧
      ∀ id o, Session.outcome? ⟨c', sh'⟩ id = some o → Session.outcome? ⟨c, sh⟩ id = some o := by
  have hneeds : ∀ id, (c'.premises b g).Needs c'.requested id → (c.premises b g).Needs c.requested id := by
    intro id hid
    rw [hpremises] at hid
    exact hid.mono hsubset
  have hspared : Spared b g c' := fun id hid => by
    rw [hpremises]
    exact (h.complete hroots (hneeds id hid)).2.1
  refine ⟨hspared, fun id hid => (h.complete hroots (hneeds id hid)).1, fun id o ho => ?_⟩
  obtain ⟨hid, n, hn, rfl⟩ := h'.outcome hspared ho
  rw [hpremises]
  exact (h.complete hroots (hneeds id hid)).2.2 n hn

end KeepsToNeeds

end Resolver

end AttributeRelease
