import AttributeRelease.Proofs.Resolver.Fate
import AttributeRelease.Proofs.Resolver.Progress

/-!
Calls come to what their nodes are fated to. Until a call has ended there is somebody who can go on, and only so
many nodes start. While a call is under way every node that is settled has met its fate, every fetch is on its
way to end in time or to run out of time as it should, and every node that waits for its failover has failed by
itself. Whatever else goes on beside the call, turns only carry this on. The clock is taken to be a good one: it
does not go past a time that a fetch waits for before that fetch has had its turn.
-/

namespace AttributeRelease

/-- What became of a node, without the error. -/
def Outcome.fate : Outcome → Resolver.Fate
  | .resolved attributes => .resolved attributes
  | .suppressed _ => .suppressed
  | .failed _ => .failed

theorem Outcome.attributes_fate (o : Outcome) : o.fate.attributes = o.attributes := by
  cases o with
  | resolved | suppressed | failed => rfl

theorem Outcome.fate_eq_failed_iff {o : Outcome} : o.fate = .failed ↔ o.standing = .failed := by
  cases o with
  | resolved | suppressed | failed => simp [fate, standing]

namespace Resolver

variable {W : Type}

/-- What the nodes of a call are worked out from. -/
def Call.premises (c : Call W) (b : Behaviour) (g : Graph W) : Premises W := ⟨g, b, c.request, c.timeout⟩

/-- The clock may move on to this time, for no fetch of the call waits for an earlier one. -/
def InTime (c : Call W) (time : Nat) : Prop :=
  ∀ id cell, c.cells.get? id = some cell → ∀ asker fetch limit,
    cell.stage = .evaluated asker (.fetching fetch limit) → fetch.Admits time ∧ time ≤ limit.due

/-- The clock may move on to this time, as far as a node goes that has come so far. -/
def Stage.Admits (time : Nat) : Stage W → Prop
  | .evaluated _ (.fetching fetch limit) => fetch.Admits time ∧ time ≤ limit.due
  | .evaluated _ (.joining _) | .evaluated _ .queued | .evaluated _ (.recovering _) | .idle | .settled _ => True

instance (time : Nat) (stage : Stage W) : Decidable (stage.Admits time) :=
  match stage with
  | .evaluated _ (.fetching fetch limit) => inferInstanceAs (Decidable (fetch.Admits time ∧ time ≤ limit.due))
  | .evaluated _ (.joining _) | .evaluated _ .queued | .evaluated _ (.recovering _) | .idle | .settled _ =>
    .isTrue trivial

theorem inTime_iff {c : Call W} {time : Nat} : InTime c time ↔ ∀ e ∈ c.cells.entries, e.2.stage.Admits time := by
  refine ⟨fun h e he => ?_, fun h id cell hcell asker fetch limit hstage => ?_⟩
  · have hadmits := h e.1 e.2 (Keyed.get?_eq_some_iff.2 he)
    generalize e.2.stage = stage at hadmits ⊢
    cases stage with
    | evaluated asker phase =>
      cases phase with
      | fetching fetch limit => exact hadmits asker fetch limit rfl
      | joining | queued | recovering => trivial
    | idle | settled => trivial
  · have hadmits := h (id, cell) (Keyed.get?_eq_some_iff.1 hcell)
    rwa [hstage] at hadmits

instance (c : Call W) (time : Nat) : Decidable (InTime c time) := decidable_of_iff _ inTime_iff.symm

/-- A fetch with this input began at some time, and now is on its way to end or to run out of time as it should. -/
def OnTime (p : Premises W) (now : Nat) (id : String) (input : ConnectorInput)
    (fetch : Strand W (Except ConnectorError AttributeMap)) (limit : Alarm) : Prop :=
  ∃ start, limit.due = start + Activity.waitOf p.timeout ∧ now ≤ limit.due ∧
    fetch.Ends (p.behaviour.answer id input) now (start + p.behaviour.time id input)

namespace OnTime

variable {p : Premises W} {now : Nat} {id : String} {input : ConnectorInput}
variable {fetch : Strand W (Except ConnectorError AttributeMap)} {limit : Alarm}

theorem moveOn (h : OnTime p now id input fetch limit) {time : Nat} (hadmits : fetch.Admits time)
    (htime : time ≤ limit.due) : OnTime p time id input fetch limit := by
  obtain ⟨start, hdue, -, hends⟩ := h
  exact ⟨start, hdue, htime, hends.moveOn hadmits⟩

/-- A fetch on time ends as it should, or goes on and is on time afterwards. -/
theorem fetchOn {s : Session W} {c : ConnectorNode W}
    (h : OnTime p s.shared.scheduler.clock c.id input fetch limit) (htimeout : s.call.timeout = p.timeout)
    (asker : Asker) (w : Waker) :
    (∀ r u, Pursuit.fetchOn asker w c fetch limit s = (some r, u) → r = p.fetched c.id input) ∧
      ∀ u, Pursuit.fetchOn asker w c fetch limit s = (none, u) → ∃ fetch' limit',
        u.stage c.id = .evaluated asker (.fetching fetch' limit') ∧
          OnTime p s.shared.scheduler.clock c.id input fetch' limit' := by
  obtain ⟨start, hdue, hlimit, hends⟩ := h
  have htimely := Strand.goOn_timely hends (s.party c.id) w s.shared.world
  have hquiet := Strand.quiet_goOn (s.party c.id) w fetch s.shared.world s.shared.scheduler
  unfold Pursuit.fetchOn
  dsimp only
  generalize fetch.goOn (s.party c.id) w s.shared.world s.shared.scheduler = turn at htimely hquiet ⊢
  obtain ⟨progress, world, k⟩ := turn
  have hclock : k.clock = s.shared.scheduler.clock := hquiet.clock
  dsimp only at htimely
  cases htimely with
  | ended hfinish =>
    dsimp only
    refine ⟨fun r u hr => ?_, fun u hu => absurd (Prod.mk.inj hu).1 (Option.some_ne_none _)⟩
    have hintime : ¬ Activity.waitOf p.timeout < p.behaviour.time c.id input := by omega
    rw [Premises.fetched, if_neg hintime]
    exact (Option.some.inj (Prod.mk.inj hr).1).symm
  | @waits fetch' _ hwaits hsteps =>
    have hfalse := Scheduler.rings_false k limit w (s.shared.scheduler.steps != 0 && k.steps == 0)
    have htrue := Scheduler.rings_true k limit w (s.shared.scheduler.steps != 0 && k.steps == 0)
    dsimp only
    rw [Scheduler.isOver]
    generalize k.rings limit w (s.shared.scheduler.steps != 0 && k.steps == 0) = look at hfalse htrue ⊢
    obtain ⟨isOver, limit', k'⟩ := look
    cases isOver with
    | true =>
      obtain ⟨hover, hlook⟩ := htrue rfl
      -- The look was granted, so that the fetch would have ended by now if it were to end in time.
      have hne : start + p.behaviour.time c.id input ≠ s.shared.scheduler.clock := fun hnow => by
        obtain ⟨hbefore, hafter⟩ := hsteps hnow
        rw [hbefore] at hlook
        rcases hlook with hfree | hleft
        · cases hfree
        · exact hleft hafter
      have hle := hwaits.le
      have hlate : Activity.waitOf p.timeout < p.behaviour.time c.id input := by omega
      dsimp only
      refine ⟨fun r u hr => ?_, fun u hu => absurd (Prod.mk.inj hu).1 (Option.some_ne_none _)⟩
      rw [Premises.fetched, if_pos hlate, ← htimeout]
      exact (Option.some.inj (Prod.mk.inj hr).1).symm
    | false =>
      obtain ⟨hsame, -, -⟩ := hfalse rfl
      dsimp only at hsame ⊢
      refine ⟨fun r u hr => absurd (Prod.mk.inj hr).1.symm (Option.some_ne_none r), fun u hu => ?_⟩
      refine ⟨fetch', limit', ?_, start, by omega, by omega, hwaits⟩
      rw [← (Prod.mk.inj hu).2, Session.stage_setPhase]

end OnTime

/-! ### Nodes on the way to their fates -/

/-- How far a node has come is right. -/
inductive Tells (p : Premises W) (now : Nat) (id : String) : Stage W → Prop
  | idle : Tells p now id .idle
  | early {asker : Asker} {phase : Phase W} (h : phase.isEarly = true) : Tells p now id (.evaluated asker phase)
  | fetching {asker : Asker} {c : ConnectorNode W} {fetch : Strand W (Except ConnectorError AttributeMap)}
    {limit : Alarm} (hnode : p.graph.node? id = some (.connector c))
    (h : OnTime p now c.id (p.fetchInput p.fate c) fetch limit) :
    Tells p now id (.evaluated asker (.fetching fetch limit))
  | recovering {asker : Asker} {n : Node W} {e : ResolutionError} (hnode : p.graph.node? id = some n)
    (h : p.attempt p.fate n = .error e) : Tells p now id (.evaluated asker (.recovering e))
  | settled {o : Outcome} (h : o.fate = p.fate id) : Tells p now id (.settled o)

theorem Tells.moveOn {p : Premises W} {now time : Nat} {id : String} {stage : Stage W} (h : Tells p now id stage)
    (htime : ∀ asker fetch limit, stage = .evaluated asker (.fetching fetch limit) →
      fetch.Admits time ∧ time ≤ limit.due) : Tells p time id stage := by
  cases h with
  | idle => exact .idle
  | early h => exact .early h
  | @fetching asker _ fetch limit hnode h =>
    obtain ⟨hadmits, hle⟩ := htime asker fetch limit rfl
    exact .fetching hnode (h.moveOn hadmits hle)
  | recovering hnode h => exact .recovering hnode h
  | settled h => exact .settled h

/-- How far each node of a call has come is right. -/
def Faithful (b : Behaviour) (g : Graph W) (s : Session W) : Prop :=
  ∀ id, Tells (s.call.premises b g) s.shared.scheduler.clock id (s.stage id)

namespace Faithful

variable {b : Behaviour} {g : Graph W} {wide : Prop} {s s' t : Session W}

theorem settled (h : Faithful b g s) {id : String} {o : Outcome} (ho : s.stage id = .settled o) :
    o.fate = (s.call.premises b g).fate id := by
  have htells := h id
  rw [ho] at htells
  cases htells with
  | settled hfate => exact hfate

theorem failed (h : Faithful b g s) {id : String} (hfailed : s.standing id = .failed) :
    (s.call.premises b g).fate id = .failed := by
  rw [← h.settled (Session.settled_of_failed hfailed)]
  rfl

theorem ended (h : Faithful b g s) {id : String} (hended : s.standing id = .ended) :
    (s.call.premises b g).fate id ≠ .failed ∧
      ((s.call.premises b g).fate id).attributes = s.attributesOf id := by
  obtain ⟨o, ho, hstanding⟩ := Session.settled_of_ended hended
  rw [← h.settled ho]
  refine ⟨fun hfailed => ?_, ?_⟩
  · rw [Outcome.fate_eq_failed_iff, hstanding] at hfailed
    cases hfailed
  · rw [o.attributes_fate, Session.attributesOf, Session.outcome?_eq_some_iff.2 ho, Option.elim_some]

/-- A node that has all it depends on has from each what that is fated to give. -/
theorem supplies (h : Faithful b g s) {n : Node W} (hn : g.node? n.id = some n) (hsupplied : Supplied g s n.id) :
    Premises.supplies (s.call.premises b g).fate n.dependencies = Pursuit.supplies s n.dependencies ∧
      ∀ d ∈ n.dependencies, (s.call.premises b g).fate d.node ≠ .failed := by
  have hended : ∀ d ∈ n.dependencies, s.standing d.node = .ended := fun d hd => hsupplied.ended hn hd
  exact ⟨List.map_congr_left fun d hd => by rw [(h.ended (hended d hd)).2], fun d hd => (h.ended (hended d hd)).1⟩

/-- A fetch that is about to go on is on time. -/
theorem underway (h : Faithful b g s) (hb : b.Governs g) (hs : Coherent g wide s) {asker : Asker} {w : Waker}
    {c : ConnectorNode W} {fetch : Strand W (Except ConnectorError AttributeMap)} {limit : Alarm}
    (hunderway : Underway g asker w c s fetch limit t) :
    t.call = s.call ∧ t.shared.scheduler.clock = s.shared.scheduler.clock ∧
      g.node? c.id = some (.connector c) ∧ Supplied g s c.id ∧
      OnTime (s.call.premises b g) s.shared.scheduler.clock c.id
        ((s.call.premises b g).fetchInput (s.call.premises b g).fate c) fetch limit := by
  cases hunderway with
  | goesOn hnode hstage =>
    have htells := h c.id
    rw [hstage] at htells
    cases htells with
    | early hearly => cases hearly
    | fetching hnode' hontime =>
      obtain rfl : c = _ := Node.connector.inj (Option.some.inj (hnode.symm.trans hnode'))
      exact ⟨rfl, rfl, hnode, hs.supplied c.id asker _ hstage rfl, hontime⟩
  | @begins t phase hnode _ _ hsupplied hpermit =>
    have htake := s.spares_takePermit c.id w
    rw [hpermit] at htake
    have hcall : t.call = s.call := htake.call
    have hclock : t.shared.scheduler.clock = s.shared.scheduler.clock := htake.quiet.clock
    have hinput : Pursuit.fetchInput c t =
        (s.call.premises b g).fetchInput (s.call.premises b g).fate c := by
      obtain ⟨hsupplies, -⟩ := h.supplies (n := .connector c) hnode hsupplied
      have hattributes : ∀ id, t.attributesOf id = s.attributesOf id := fun id => by
        rw [Session.attributesOf, Session.outcome?_congr (Session.stage_of_spares htake id), Session.attributesOf]
      have hsame : Pursuit.supplies t c.dependencies = Pursuit.supplies s c.dependencies :=
        List.map_congr_left fun d _ => by rw [hattributes]
      rw [Node.dependencies] at hsupplies
      rw [Pursuit.fetchInput, hsame, ← hsupplies, hcall]
      rfl
    refine ⟨hcall, hclock, hnode, hsupplied, s.shared.scheduler.clock, ?_, ?_, ?_⟩
    · rw [← hclock, hcall]
      rfl
    · rw [← hclock]
      exact Nat.le_add_right _ _
    · rw [hinput]
      exact .poised (hb c hnode _) rfl

/-- A node comes to what it should by itself. -/
theorem attempted (h : Faithful b g s) (hb : b.Governs g) (hs : Coherent g wide s) {asker : Asker} {n : Node W}
    {r : Except ResolutionError AttributeMap} (hattempted : Attempted g asker n r s t) :
    (s.call.premises b g).attempt (s.call.premises b g).fate n = r ∧
      ∀ d ∈ n.dependencies, (s.call.premises b g).fate d.node ≠ .failed := by
  cases hattempted with
  | @computed _ d _ hnode _ hsupplied =>
    obtain ⟨hsupplies, hdependencies⟩ := h.supplies (n := .definition d) hnode hsupplied
    rw [Node.dependencies] at hsupplies
    refine ⟨?_, hdependencies⟩
    rw [Premises.attempt, hsupplies]
    rfl
  | @fetched _ u _ c w fetch limit r hunderway hended =>
    obtain ⟨hcall, hclock, hnode, hsupplied, hontime⟩ := h.underway hb hs hunderway
    rw [← hclock] at hontime
    have hr := (hontime.fetchOn (by rw [hcall]; rfl) asker w).1 r _ hended
    exact ⟨by rw [Premises.attempt, hr], (h.supplies (n := .connector c) hnode hsupplied).2⟩

/-- Nodes go on in the same call and at the same time. -/
theorem of_stages (h : Faithful b g s) (hcall : s'.call.premises b g = s.call.premises b g)
    (hclock : s'.shared.scheduler.clock = s.shared.scheduler.clock)
    (hstage : ∀ x, s'.stage x = s.stage x ∨
      Tells (s.call.premises b g) s.shared.scheduler.clock x (s'.stage x)) : Faithful b g s' := fun x => by
  rw [hcall, hclock]
  rcases hstage x with hsame | htells
  · exact hsame ▸ h x
  · exact htells

/-- The cell of one node changes. -/
theorem alters (h : Faithful b g s) {id : String} {es : List Event} (halters : Alters id es s s')
    (htells : Tells (s.call.premises b g) s.shared.scheduler.clock id (s'.stage id)) : Faithful b g s' := by
  refine h.of_stages (by rw [halters.call]; rfl) halters.quiet.clock fun x => ?_
  by_cases hx : x = id
  · exact .inr (hx ▸ htells)
  · exact .inl (Session.stage_of_alters halters hx)

theorem setPhase (h : Faithful b g s) {es : List Event} (hspares : Spares es s t) {id : String} {asker : Asker}
    {phase : Phase W}
    (htells : Tells (s.call.premises b g) s.shared.scheduler.clock id (.evaluated asker phase)) :
    Faithful b g (t.setPhase id asker phase) := by
  refine h.alters ((hspares.alters id).trans (t.alters_setPhase id asker phase)) ?_
  rw [t.stage_setPhase]
  exact htells

theorem settle (h : Faithful b g s) {es : List Event} (hspares : Spares es s t) {id : String} {o : Outcome}
    (hfate : o.fate = (s.call.premises b g).fate id) : Faithful b g (t.settle id o) := by
  refine h.alters ((hspares.alters id).trans (t.alters_settle id o)) ?_
  rw [t.stage_settle]
  exact .settled hfate

theorem drops (h : Faithful b g s) {crowd : Option Nat} (hdrops : Drops crowd s t) : Faithful b g t := by
  refine h.of_stages (by rw [hdrops.call]; rfl) hdrops.clock fun x => ?_
  rcases hdrops.stage x with hsame | ⟨-, hidle⟩
  · exact .inl hsame
  · exact .inr (hidle ▸ .idle)

/-- Who waits for its failover has failed by itself. -/
theorem erred (h : Faithful b g s) {n : Node W} (hnode : g.node? n.id = some n) {asker : Asker} {e : ResolutionError}
    (hstage : s.stage n.id = .evaluated asker (.recovering e)) :
    (s.call.premises b g).attempt (s.call.premises b g).fate n = .error e := by
  have htells := h n.id
  rw [hstage] at htells
  cases htells with
  | early hearly => cases hearly
  | @recovering _ m _ hnode' hattempt =>
    obtain rfl : n = m := Option.some.inj (hnode.symm.trans hnode')
    exact hattempt

/-- Who waits for its failover depends on nothing that has failed, and comes to what the failover came to. -/
theorem recovering (h : Faithful b g s) (hs : Coherent g wide s) {n : Node W} (hnode : g.node? n.id = some n)
    {asker : Asker} {e : ResolutionError} {failover : String} (hfailover : n.failover = some failover)
    (hstage : s.stage n.id = .evaluated asker (.recovering e)) :
    (s.call.premises b g).fate n.id = ((s.call.premises b g).fate failover).adopted := by
  have hdependencies := (h.supplies hnode (hs.supplied n.id asker _ hstage rfl)).2
  rw [Premises.fate_eq _ hnode]
  exact Premises.fateOf_of_failover hdependencies (h.erred hnode hstage) hfailover

theorem falls (h : Faithful b g s) (hs : Coherent g wide s) (hfalls : Falls g s s') : Faithful b g s' := by
  cases hfalls with
  | givesUp hnode hfailover hstage hfailed =>
    refine h.settle (.refl s) ?_
    rw [h.recovering hs hnode hfailover hstage, h.failed hfailed]
    rfl
  | @follows t n asker group d hnode hstage hwanted hfailed hdrops hkept =>
    have hcall : t.call.premises b g = s.call.premises b g := by rw [hdrops.call]; rfl
    refine (h.drops hdrops).settle (.refl t) ?_
    rw [wanted_node s.call hnode] at hwanted
    obtain ⟨dependency, hd, rfl⟩ := List.mem_map.1 hwanted
    rw [hcall, Premises.fate_eq _ hnode, Premises.fateOf_of_failed hd (h.failed hfailed)]
    rfl

/-- **Every move carries the nodes on to their fates.** -/
theorem move (h : Faithful b g s) (hb : b.Governs g) (hs : Coherent g wide s) {fails : Bool}
    (hmove : Move g fails s s') : Faithful b g s' := by
  have hcall : s'.call.premises b g = s.call.premises b g := by rw [hmove.call]; rfl
  have hclock := (hmove.beside hs).clock
  cases hmove with
  | rests _ _ hstage => exact h.of_stages hcall hclock fun x => .inl (hstage x)
  | notes => exact h.of_stages hcall hclock fun _ => .inl rfl
  | embarks _ hstart =>
    obtain ⟨hstarted, -, -⟩ := opens_start hstart
    exact h.of_stages hcall hclock fun x => .inl (Session.stage_congr (congrArg Call.cells hstarted) x)
  | @enters _ t u n asker w group _ henter hstart =>
    obtain ⟨hidle, halters, -⟩ := Session.enterCell_enters (hs.fits n.id) henter
    obtain ⟨hstarted, -, -⟩ := opens_start hstart
    refine h.of_stages hcall hclock fun x => ?_
    by_cases hx : x = n.id
    · subst hx
      rw [u.stage_setPhase]
      exact .inr (.early rfl)
    · exact .inl (Session.stage_setPhase_of_ne halters hstarted asker _ hx)
  | @queues _ t c asker w _ _ _ _ _ hpermit =>
    have htake := s.spares_takePermit c.id w
    rw [hpermit] at htake
    exact h.setPhase htake (.early rfl)
  | @fetches _ t _ c asker w _ _ hunderway hwaits =>
    obtain ⟨ht, hnow, hnode, -, hontime⟩ := h.underway hb hs hunderway
    obtain ⟨es, v, fetch', limit', hstretch, hu⟩ := hunderway.waits hwaits
    rw [← hnow] at hontime
    obtain ⟨fetch'', limit'', hstage, hontime'⟩ := (hontime.fetchOn (by rw [ht]; rfl) asker w).2 s' hwaits
    rw [hu, v.stage_setPhase] at hstage
    cases hstage
    rw [hnow] at hontime'
    rw [hu]
    exact h.setPhase hstretch.spares (.fetching hnode hontime')
  | succeeds hattempted =>
    obtain ⟨es, hstretch⟩ := hattempted.stretch
    obtain ⟨hattempt, hdependencies⟩ := h.attempted hb hs hattempted
    refine h.settle hstretch.spares ?_
    rw [Premises.fate_eq _ hattempted.node, Premises.fateOf_of_ok hdependencies hattempt]
    rfl
  | turnsOver hattempted =>
    obtain ⟨es, hstretch⟩ := hattempted.stretch
    exact h.setPhase hstretch.spares (.recovering hattempted.node (h.attempted hb hs hattempted).1)
  | isSpared hattempted hfailover hpropagates | breaks hattempted hfailover hpropagates =>
    obtain ⟨es, hstretch⟩ := hattempted.stretch
    obtain ⟨hattempt, hdependencies⟩ := h.attempted hb hs hattempted
    refine h.settle hstretch.spares ?_
    rw [Premises.fate_eq _ hattempted.node, Premises.fateOf_of_error hdependencies hattempt hfailover, hpropagates]
    rfl
  | adopts hnode hfailover hstage hended =>
    obtain ⟨hne, hattributes⟩ := h.ended hended
    refine h.settle (.refl s) ?_
    rw [h.recovering hs hnode hfailover hstage, Fate.adopted_of_ne hne, hattributes]
    rfl
  | falls hfalls => exact h.falls hs hfalls

theorem moves (h : Faithful b g s) (hb : b.Governs g) (hs : Coherent g wide s) {fails : Bool}
    (hmoves : Moves g wide s fails t) : Faithful b g t :=
  hmoves.keeps hs (fun _ _ _ hc hmove hf => hf.move hb hc hmove) h

/-- Time passes. -/
theorem moveOn {c : Call W} {sh sh' : Shared W} (h : Faithful b g ⟨c, sh⟩)
    (hclock : sh'.scheduler.clock = sh.scheduler.clock ∨ InTime c sh'.scheduler.clock) : Faithful b g ⟨c, sh'⟩ := by
  intro id
  have htells := h id
  rcases hclock with hsame | hintime
  · rw [← hsame] at htells
    exact htells
  · refine htells.moveOn fun asker fetch limit hstage => ?_
    obtain ⟨cell, hcell, hsame⟩ := Session.exists_cell (by rw [hstage]; exact nofun)
    exact hintime id cell hcell asker fetch limit (hsame.trans hstage)

end Faithful

/-- A call has come to the result that its nodes are fated to. -/
structure Fated (p : Premises W) (requested : List String) (result : Except ResolutionError Resolution) : Prop where
  /-- It comes to attributes if no root fails. -/
  ok_iff : (∃ resolution, result = .ok resolution) ↔ ∀ n ∈ p.graph.roots requested, p.fate n.id ≠ .failed
  /-- The attributes are those that the roots give out. -/
  attributes : ∀ resolution, result = .ok resolution →
    resolution.attributes = released requested ((p.graph.roots requested).map fun n => (n, (p.fate n.id).attributes))
  /-- The roots are among the nodes that were needed. -/
  roots : ∀ resolution, result = .ok resolution → ∀ n ∈ p.graph.roots requested, ∃ o, (n.id, o) ∈ resolution.outcomes
  /-- Every node that was needed has met its fate. -/
  outcomes : ∀ resolution, result = .ok resolution → ∀ id o, (id, o) ∈ resolution.outcomes → o.fate = p.fate id

theorem Faithful.resolution {b : Behaviour} {g : Graph W} {s : Session W} (h : Faithful b g s)
    (hended : ∀ id ∈ wanted g s.call none, s.standing id = .ended) :
    Fated (s.call.premises b g) s.call.requested (.ok (resolution (g.roots s.call.requested) s)) := by
  have hroot : ∀ n ∈ g.roots s.call.requested, s.standing n.id = .ended := fun n hn =>
    hended n.id (List.mem_map_of_mem hn)
  refine ⟨⟨fun _ n hn => (h.ended (hroot n hn)).1, fun _ => ⟨_, rfl⟩⟩, ?_, ?_, ?_⟩
  · rintro _ ⟨⟩
    refine congrArg (released s.call.requested) (List.map_congr_left fun n hn => ?_)
    rw [(h.ended (hroot n hn)).2]
  · rintro _ ⟨⟩ n hn
    obtain ⟨o, ho, -⟩ := Session.settled_of_ended (hroot n hn)
    have houtcome := Session.outcome?_eq_some_iff.2 ho
    obtain ⟨cell, hcell, -⟩ := Session.exists_cell (by rw [ho]; exact nofun)
    exact ⟨o, List.mem_filterMap.2 ⟨n.id, Keyed.mem_keys_iff.2 ⟨cell, hcell⟩, by rw [houtcome]; rfl⟩⟩
  · rintro _ ⟨⟩ id o hmem
    obtain ⟨id', -, ho⟩ := List.mem_filterMap.1 hmem
    obtain ⟨o', houtcome, heq⟩ := Option.map_eq_some_iff.1 ho
    cases heq
    exact h.settled (Session.outcome?_eq_some_iff.1 houtcome)

/-- What is known of a call at any time: if it is not over its nodes are on the way, and its end was right. -/
structure FollowsFate (b : Behaviour) (g : Graph W) (c : Call W) (sh : Shared W) : Prop where
  faithful : c.ending = none → Faithful b g ⟨c, sh⟩
  outcomes : ∀ id o, Session.outcome? ⟨c, sh⟩ id = some o → o.fate = (c.premises b g).fate id
  returned : ∀ result, c.ending = some (.returned result) → Fated (c.premises b g) c.requested result

theorem FollowsFate.kept {r : Resolver W} {b : Behaviour} (hb : b.Governs r.graph) :
    Kept r InTime (FollowsFate b r.graph) where
  starts c sh hfresh _ := by
    refine ⟨fun _ id => ?_, fun id o ho => ?_, fun result h => ?_⟩
    · rw [hfresh.stage]
      exact .idle
    · rw [Session.outcome?_eq, hfresh.stage] at ho
      cases ho
    · rw [hfresh.ending] at h
      cases h
  turns s fails t u hending hs h hmoves hcloses := by
    have ht := (h.faithful hending).moves hb hs hmoves
    have hover : ∀ {v : Session W} (ending : Ending), Faithful b r.graph v →
        (∀ result, ending = .returned result →
          Fated (v.call.premises b r.graph) v.call.requested result) →
        FollowsFate b r.graph (finish ending v).call (finish ending v).shared := fun ending hv hresult =>
      ⟨nofun, fun id o ho => hv.settled (Session.outcome?_eq_some_iff.1 ho),
        fun result hreturned => hresult result (Option.some.inj hreturned)⟩
    cases hcloses with
    | waits =>
      refine ⟨fun _ => ht, fun id o ho => ht.settled (Session.outcome?_eq_some_iff.1 ho), fun result hreturned => ?_⟩
      rw [hmoves.call, hending] at hreturned
      cases hreturned
    | returns hended =>
      refine hover _ ht ?_
      rintro _ ⟨⟩
      exact ht.resolution hended
    | @breaks _ u _ id crowd hwanted hfailed hdrops =>
      have hcall : u.call.premises b r.graph = t.call.premises b r.graph := by rw [hdrops.call]; rfl
      refine hover _ (ht.drops hdrops) ?_
      rintro _ ⟨⟩
      obtain ⟨n, hn, rfl⟩ := List.mem_map.1 hwanted
      refine ⟨⟨nofun, fun hall => ?_⟩, nofun, nofun, nofun⟩
      rw [hcall] at hall
      have hrequested : u.call.requested = t.call.requested := by rw [hdrops.call]
      exact absurd (ht.failed hfailed) (hall n (hrequested ▸ hn))
    | leaves hdrops => exact hover _ (ht.drops hdrops) nofun
  elsewhere c sh sh' _ hclock h :=
    ⟨fun hending => (h.faithful hending).moveOn (hclock hending), h.outcomes, h.returned⟩

/-- How connectors behave that answer after a while. -/
def Sample.behaviour (ms : Nat) (answers : String → AttributeMap) : Behaviour where
  time _ _ := Activity.waitOf ms
  answer id _ := .ok (answers id)

end Resolver

end AttributeRelease
