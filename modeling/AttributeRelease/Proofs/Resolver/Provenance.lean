import AttributeRelease.Proofs.Activity.Durations
import AttributeRelease.Proofs.Resolver.Evaluation

/-!
Where outcomes come from. What a node is settled with was computed or fetched for it, or was handed on to it by a
failover or by something that it depends on. So every outcome leads back to a node that came to it by itself, and
that node had been given all it depends on, and had begun.
-/

namespace AttributeRelease

namespace Activity

variable {W α : Type}

/-- The activity can end with this value, if the world is as it should be. -/
inductive Gives (v : α) : Activity W α → Prop
  | done : Gives v (.done v)
  | act {change : W → W} {next : W → Activity W α} (world : W) (h : Gives v (next world)) :
    Gives v (.act change next)
  | guarded {lock : String} {change : W → W} {next : W → Activity W α} (world : W) (h : Gives v (next world)) :
    Gives v (.guarded lock change next)
  | sleep {ms : Nat} {next : Activity W α} (h : Gives v next) : Gives v (.sleep ms next)
  | pause {next : Activity W α} (h : Gives v next) : Gives v (.pause next)

end Activity

namespace Strand

variable {W α : Type} {v : α}

/-- The strand can end with this value. -/
def Gives (v : α) : Strand W α → Prop
  | .poised a => a.Gives v
  | .asleep _ next => next.Gives v

/-- The strand has ended with this value, or still can. -/
def Progress.Gives (v : α) : Progress W α → Prop
  | .ended a => a = v
  | .waits s => s.Gives v

theorem advance_gives (who : Party) (w : Waker) (a : Activity W α) (world : W) (k : Scheduler)
    (h : (advance who w a world k).1.Gives v) : a.Gives v := by
  induction a generalizing world k with
  | done a =>
    obtain rfl : a = v := h
    exact .done
  | act change next ih => exact .act world (ih world (change world) k h)
  | guarded lock change next ih =>
    rw [advance] at h
    cases htake : k.take lock who w with
    | mk isIn k' =>
      rw [htake] at h
      cases isIn with
      | true => exact .guarded world (ih world (change world) _ h)
      | false => exact h
  | sleep ms next ih =>
    rw [advance] at h
    cases hrings : k.rings (k.alarm ms) w false with
    | mk rings rest =>
      rw [hrings] at h
      cases rings with
      | true => exact .sleep (ih world rest.2 h)
      | false => exact .sleep h
  | pause next => exact .pause h

/-- A strand that goes on can give nothing that it could not give before. -/
theorem goOn_gives (who : Party) (w : Waker) (s : Strand W α) (world : W) (k : Scheduler)
    (h : (s.goOn who w world k).1.Gives v) : s.Gives v := by
  cases s with
  | poised a => exact advance_gives who w a world k h
  | asleep alarm next =>
    rw [goOn] at h
    cases hrings : k.rings alarm w false with
    | mk rings rest =>
      rw [hrings] at h
      cases rings with
      | true => exact advance_gives who w next world rest.2 h
      | false => exact h

end Strand

namespace Resolver

variable {W : Type}

/-- A fetch comes to what its connector gives, unless its time is over. -/
theorem Pursuit.fetchOn_gives (asker : Asker) (w : Waker) (c : ConnectorNode W)
    (fetch : Strand W (Except ConnectorError AttributeMap)) (limit : Alarm) (s : Session W) :
    (∀ r u, fetchOn asker w c fetch limit s = (some r, u) → fetch.Gives r ∨
      r = .error (.timeout s.call.timeout) ∧ limit.due ≤ s.shared.scheduler.clock) ∧
      ∀ u, fetchOn asker w c fetch limit s = (none, u) → ∃ fetch' limit',
        u.stage c.id = .evaluated asker (.fetching fetch' limit') ∧ limit'.due = limit.due ∧
          ∀ r, fetch'.Gives r → fetch.Gives r := by
  have hgives := fun r => Strand.goOn_gives (v := r) (s.party c.id) w fetch s.shared.world s.shared.scheduler
  have hquiet := Strand.quiet_goOn (s.party c.id) w fetch s.shared.world s.shared.scheduler
  unfold fetchOn
  dsimp only
  generalize fetch.goOn (s.party c.id) w s.shared.world s.shared.scheduler = step at hgives hquiet ⊢
  obtain ⟨progress, world, k⟩ := step
  cases progress with
  | ended r =>
    refine ⟨fun r' u h => ?_, fun u h => ?_⟩
    · cases h
      exact .inl (hgives r rfl)
    · cases h
  | waits fetch' =>
    have hclock : k.clock = s.shared.scheduler.clock := hquiet.clock
    have hfalse := Scheduler.rings_false k limit w (s.shared.scheduler.steps != 0 && k.steps == 0)
    have htrue := Scheduler.rings_true k limit w (s.shared.scheduler.steps != 0 && k.steps == 0)
    dsimp only
    rw [Scheduler.isOver]
    generalize k.rings limit w (s.shared.scheduler.steps != 0 && k.steps == 0) = look at hfalse htrue ⊢
    obtain ⟨isOver, limit', k'⟩ := look
    cases isOver with
    | true =>
      refine ⟨fun r u h => ?_, fun u h => ?_⟩
      · cases h
        exact .inr ⟨rfl, hclock ▸ (htrue rfl).1⟩
      · cases h
    | false =>
      refine ⟨fun r u h => ?_, fun u h => ?_⟩
      · cases h
      · cases h
        exact ⟨fetch', limit', Session.stage_setPhase _ _ _ _, (hfalse rfl).1, fun r h => hgives r h⟩

/-- A state of the same call, in which nothing that was settled or put down has been lost. -/
structure Later (s s' : Session W) : Prop where
  call : s'.call = { s.call with cells := s'.call.cells, begun := s'.call.begun, ending := s'.call.ending }
  settled : ∀ x o, s.stage x = .settled o → s'.stage x = .settled o
  log : s.shared.log ⊆ s'.shared.log
  clock : s.shared.scheduler.clock ≤ s'.shared.scheduler.clock

namespace Later

variable {g : Graph W} {s t : Session W}

theorem of_spares {es : List Event} (h : Spares es s t) : Later s t where
  call := by rw [h.call]
  settled x _ hx := (Session.stage_of_spares h x).trans hx
  log := by
    rw [h.log]
    exact List.subset_append_right _ _
  clock := Nat.le_of_eq h.quiet.clock.symm

/-- The cell of a node changes that was not settled. -/
theorem of_alters {id : String} {es : List Event} (h : Alters id es s t) (hid : ∀ o, s.stage id ≠ .settled o) :
    Later s t where
  call := by rw [h.call]
  settled x o hx := (Session.stage_of_alters h fun hxid => hid o (hxid ▸ hx)).trans hx
  log := by
    rw [h.log]
    exact List.subset_append_right _ _
  clock := Nat.le_of_eq h.quiet.clock.symm

theorem of_drops {crowd : Option Nat} (h : Drops crowd s t) : Later s t where
  call := by rw [h.call]
  settled _ _ hx := h.settled hx
  log := by
    obtain ⟨es, hlog, -⟩ := h.log
    rw [hlog]
    exact List.subset_append_right _ _
  clock := Nat.le_of_eq h.clock.symm

theorem of_finish (ending : Ending) (s : Session W) : Later s (finish ending s) where
  call := rfl
  settled _ _ hx := hx
  log := List.Subset.refl _
  clock := Nat.le_of_eq (finish_effect ending s).2.1.clock.symm

theorem of_elsewhere {c : Call W} {sh sh' : Shared W} (h : Elsewhere c sh sh') : Later ⟨c, sh⟩ ⟨c, sh'⟩ where
  call := rfl
  settled _ _ hx := hx
  log := by
    obtain ⟨es, hlog, -⟩ := h.log
    rw [show sh'.log = es ++ sh.log from hlog]
    exact List.subset_append_right _ _
  clock := h.clock

theorem wanted (h : Later s t) : wanted g t.call = wanted g s.call := wanted_congr g (by rw [h.call])

theorem number (h : Later s t) : t.call.number = s.call.number := by rw [h.call]

theorem standing (h : Later s t) {x : String} (hx : s.standing x ≠ .waits) : t.standing x = s.standing x := by
  obtain ⟨o, ho, hstanding⟩ := Session.settled_of_standing hx
  rw [hstanding]
  exact Session.standing_of_settled (h.settled x o ho)

theorem ended (h : Later s t) {x : String} (hx : s.standing x = .ended) : t.standing x = .ended :=
  (h.standing (by rw [hx]; decide)).trans hx

theorem attributesOf (h : Later s t) {x : String} (hx : s.standing x ≠ .waits) :
    t.attributesOf x = s.attributesOf x := by
  obtain ⟨o, ho, -⟩ := Session.settled_of_standing hx
  rw [Session.attributesOf, Session.attributesOf, Session.outcome?_eq_some_iff.2 ho,
    Session.outcome?_eq_some_iff.2 (h.settled x o ho)]

theorem supplied (h : Later s t) {x : String} (hx : Supplied g s x) : Supplied g t x :=
  hx.mono h.wanted fun _ hy => h.standing hy

/-- What a node works from stays as it is once it is all there. -/
theorem supplies (h : Later s t) {n : Node W} (hn : g.node? n.id = some n) (hsupplied : Supplied g s n.id) :
    Pursuit.supplies t n.dependencies = Pursuit.supplies s n.dependencies := by
  refine List.map_congr_left fun d hd => ?_
  have hended := hsupplied.ended hn hd
  rw [h.attributesOf (by rw [hended]; decide)]

theorem fetchInput (h : Later s t) {c : ConnectorNode W} (hn : g.node? c.id = some (.connector c))
    (hsupplied : Supplied g s c.id) : Pursuit.fetchInput c t = Pursuit.fetchInput c s := by
  have hsupplies := h.supplies (n := .connector c) hn hsupplied
  rw [Node.dependencies] at hsupplies
  rw [Pursuit.fetchInput, Pursuit.fetchInput, hsupplies, h.call]

theorem computation (h : Later s t) {d : DefinitionNode} (hn : g.node? d.id = some (.definition d))
    (hsupplied : Supplied g s d.id) : Pursuit.computation g d t = Pursuit.computation g d s := by
  have hsupplies := h.supplies (n := .definition d) hn hsupplied
  rw [Node.dependencies] at hsupplies
  rw [Pursuit.computation, Pursuit.computation, hsupplies, h.call]

end Later

theorem Move.later {g : Graph W} {wide : Prop} {b : Bool} {s s' : Session W} (h : Move g b s s')
    (hs : Coherent g wide s) : Later s s' where
  call := by rw [h.call]
  settled _ _ hx := h.settled hs hx
  log := by
    obtain ⟨es, hlog, -⟩ := (h.beside hs).log
    rw [hlog]
    exact List.subset_append_right _ _
  clock := Nat.le_of_eq (h.beside hs).clock.symm

theorem Event.own_inj {call call' : Nat} {id id' : String} {r r' : Except ResolutionError AttributeMap}
    (h : own call id r = own call' id' r') : call = call' ∧ id = id' ∧ r = r' := by
  cases r <;> cases r' <;> cases h <;> exact ⟨rfl, rfl, rfl⟩

/-- Before a fetch goes on no more is put down than that it begins. -/
theorem Underway.spares {g : Graph W} {asker : Asker} {w : Waker} {c : ConnectorNode W} {s t : Session W}
    {fetch : Strand W (Except ConnectorError AttributeMap)} {limit : Alarm}
    (h : Underway g asker w c s fetch limit t) : ∃ es, Spares es s t ∧ ∀ e ∈ es, e = .began s.call.number c.id := by
  rcases h.stretch with hstretch | hstretch
  · exact ⟨_, hstretch.spares, List.forall_mem_nil _⟩
  · exact ⟨_, hstretch.spares, fun e he => List.mem_singleton.1 he⟩

/-- What a node comes to by itself is put down last, and nothing of the kind before. -/
theorem Attempted.records {g : Graph W} {asker : Asker} {n : Node W} {r : Except ResolutionError AttributeMap}
    {s t : Session W} (h : Attempted g asker n r s t) :
    ∃ u es, t = u.record (.own u.call.number n.id r) ∧ Spares es s u ∧
      ∀ e ∈ es, e = .computed s.call.number n.id ∨ e = .began s.call.number n.id ∨ e = .ended s.call.number n.id := by
  cases h with
  | computed => exact ⟨_, _, rfl, s.spares_record _, fun e he => .inl (List.mem_singleton.1 he)⟩
  | @fetched _ u v c w fetch limit x hunderway hended =>
    obtain ⟨es, hspares, hes⟩ := hunderway.spares
    rcases Pursuit.fetchOn_effect asker w c fetch limit u with ⟨_, -, hends⟩ | ⟨_, _, _, hnone, -⟩
    · rw [hended, hspares.call] at hends
      refine ⟨v, _, rfl, hspares.trans hends, fun e he => ?_⟩
      rcases List.mem_append.1 he with he | he
      · exact .inr (.inr (List.mem_singleton.1 he))
      · exact .inr (.inl (hes e he))
    · rw [hended] at hnone
      cases hnone

/-- Whether the failure of a node is passed on: it has no failover, and does not keep the failure to itself. -/
def Node.Fatal (n : Node W) : Prop := n.failover = none ∧ n.propagatesErrors = true

/-- What is put down by a move; nothing that is passed on unless the move makes a node fail. -/
inductive PutsDown (g : Graph W) (call : Nat) (fails : Bool) : Event → Prop
  | computed {n : Node W} (hnode : g.node? n.id = some n) : PutsDown g call fails (.computed call n.id)
  | began {n : Node W} (hnode : g.node? n.id = some n) : PutsDown g call fails (.began call n.id)
  | ended (id : String) : PutsDown g call fails (.ended call id)
  | own {n : Node W} {r : Except ResolutionError AttributeMap} (hnode : g.node? n.id = some n)
    (hr : fails = false → ∀ e, r = .error e → ¬ Node.Fatal n) : PutsDown g call fails (.own call n.id r)
  | settled (id : String) (o : Outcome) : PutsDown g call fails (.settled call id o)

theorem Underway.node {g : Graph W} {asker : Asker} {w : Waker} {c : ConnectorNode W} {s t : Session W}
    {fetch : Strand W (Except ConnectorError AttributeMap)} {limit : Alarm}
    (h : Underway g asker w c s fetch limit t) : g.node? c.id = some (.connector c) := by
  cases h with
  | goesOn hnode | begins hnode => exact hnode

theorem Attempted.putsDown {g : Graph W} {asker : Asker} {n : Node W} {r : Except ResolutionError AttributeMap}
    {s t : Session W} (h : Attempted g asker n r s t) {fails : Bool}
    (hr : fails = false → ∀ e, r = .error e → ¬ Node.Fatal n) :
    ∃ es, Spares es s t ∧ ∀ e ∈ es, PutsDown g s.call.number fails e := by
  have hnode := h.node
  obtain ⟨u, es, rfl, hspares, hes⟩ := h.records
  refine ⟨_, hspares.trans (u.spares_record _), fun e he => ?_⟩
  rcases List.mem_append.1 he with he | he
  · rw [List.mem_singleton.1 he, hspares.call]
    exact .own hnode hr
  · rcases hes e he with rfl | rfl | rfl
    · exact .computed hnode
    · exact .began hnode
    · exact .ended n.id

/-- **What every move puts down.** -/
theorem Move.putsDown {g : Graph W} {wide : Prop} {b : Bool} {s s' : Session W} (h : Move g b s s')
    (hs : Coherent g wide s) : ∃ es, s'.shared.log = es ++ s.shared.log ∧ ∀ e ∈ es, PutsDown g s.call.number b e := by
  have hattempts : ∀ {asker : Asker} {n : Node W} {r : Except ResolutionError AttributeMap} {t u : Session W},
      Attempted g asker n r s t → (b = false → ∀ e, r = .error e → ¬ Node.Fatal n) →
      ∀ {es' : List Event}, u.shared.log = es' ++ t.shared.log → (∀ e ∈ es', PutsDown g t.call.number b e) →
      ∃ es, u.shared.log = es ++ s.shared.log ∧ ∀ e ∈ es, PutsDown g s.call.number b e := by
    intro asker n r t u hattempted hr es' hlog hes'
    obtain ⟨es, hspares, hes⟩ := hattempted.putsDown hr
    refine ⟨es' ++ es, by rw [hlog, hspares.log, List.append_assoc], fun e he => ?_⟩
    rw [hspares.call] at hes'
    exact (List.mem_append.1 he).elim (hes' e) (hes e)
  have hsettled : ∀ {v : Session W} {id : String} {o : Outcome}, (v.settle id o).shared.log =
      [.settled v.call.number id o] ++ v.shared.log ∧
        ∀ e ∈ [Event.settled v.call.number id o], PutsDown g v.call.number b e := fun {v id o} =>
    ⟨(v.alters_settle id o).log, fun e he => List.mem_singleton.1 he ▸ .settled id o⟩
  cases h with
  | rests _ _ _ _ _ hlog => exact ⟨[], hlog, List.forall_mem_nil _⟩
  | notes => exact ⟨[], rfl, List.forall_mem_nil _⟩
  | embarks _ hstart => exact ⟨[], (opens_start hstart).2.1, List.forall_mem_nil _⟩
  | @enters _ t u n asker w group _ henter hstart =>
    obtain ⟨-, halters, -⟩ := Session.enterCell_enters (hs.fits n.id) henter
    exact ⟨[], (opens_start hstart).2.1.trans halters.log, List.forall_mem_nil _⟩
  | @queues _ t c asker w phase _ _ _ _ hpermit =>
    have htake := s.spares_takePermit c.id w
    rw [hpermit] at htake
    exact ⟨[], htake.log, List.forall_mem_nil _⟩
  | @fetches _ t _ c asker w fetch limit hunderway hwaits =>
    obtain ⟨es, hspares, hes⟩ := hunderway.spares
    rcases Pursuit.fetchOn_effect asker w c fetch limit t with ⟨_, hr, -⟩ | ⟨_, _, v, hv, hrests⟩
    · rw [hwaits] at hr
      cases hr
    · rw [hwaits] at hv
      obtain ⟨-, rfl⟩ := Prod.mk.inj hv
      exact ⟨es, hrests.log.trans hspares.log, fun e he => hes e he ▸ .began (n := .connector c) hunderway.node⟩
  | succeeds hattempted => exact hattempts hattempted nofun hsettled.1 hsettled.2
  | turnsOver hattempted hfailover =>
    refine hattempts hattempted (fun _ _ _ hfatal => ?_) (List.nil_append _).symm (List.forall_mem_nil _)
    rw [hfatal.1] at hfailover
    cases hfailover
  | isSpared hattempted _ hpropagates =>
    refine hattempts hattempted (fun _ _ _ hfatal => ?_) hsettled.1 hsettled.2
    rw [hfatal.2] at hpropagates
    cases hpropagates
  | breaks hattempted => exact hattempts hattempted nofun hsettled.1 hsettled.2
  | adopts => exact ⟨_, hsettled⟩
  | falls hfalls =>
    cases hfalls with
    | givesUp => exact ⟨_, hsettled⟩
    | @follows t n _ group d _ _ _ _ hdrops =>
      obtain ⟨es, hlog, hes⟩ := hdrops.log
      refine ⟨_ ++ es, by rw [(t.alters_settle n.id _).log, hlog, List.append_assoc], fun e he => ?_⟩
      rcases List.mem_append.1 he with he | he
      · rw [List.mem_singleton.1 he, hdrops.call]
        exact .settled _ _
      · obtain ⟨id, rfl⟩ := hes e he
        exact .ended id

/-! ### Origins -/

/--
What a node of a call came to by itself. It has all that it depends on and has begun; a definition was computed, and
a connector gave it or was too slow, which nobody is before so much time has passed.
-/
inductive CameTo (g : Graph W) (s : Session W) : Node W → Except ResolutionError AttributeMap → Prop
  | computed {d : DefinitionNode} (hnode : g.node? d.id = some (.definition d)) (hsupplied : Supplied g s d.id)
    (hbegun : .computed s.call.number d.id ∈ s.shared.log) :
    CameTo g s (.definition d) (Pursuit.computation g d s)
  | fetched {c : ConnectorNode W} {r : Except ConnectorError AttributeMap}
    (hnode : g.node? c.id = some (.connector c)) (hsupplied : Supplied g s c.id)
    (hbegun : .began s.call.number c.id ∈ s.shared.log)
    (hr : (c.connector (Pursuit.fetchInput c s)).Gives r ∨
      r = .error (.timeout s.call.timeout) ∧ Activity.waitOf s.call.timeout ≤ s.shared.scheduler.clock) :
    CameTo g s (.connector c) (r.mapError (.connector c.id))

/-- How an outcome comes from what nodes of the call came to by themselves. -/
inductive Derived (g : Graph W) (call : Nat) (log : List Event) : String → Outcome → Prop
  | own {n : Node W} {m : AttributeMap} (hnode : g.node? n.id = some n) (hgave : .gave call n.id m ∈ log) :
    Derived g call log n.id (.resolved m)
  | spared {n : Node W} {e : ResolutionError} (hnode : g.node? n.id = some n) (herred : .erred call n.id e ∈ log)
    (hfailover : n.failover = none) (hpropagates : n.propagatesErrors = false) :
    Derived g call log n.id (.suppressed e)
  | broken {n : Node W} {e : ResolutionError} (hnode : g.node? n.id = some n) (herred : .erred call n.id e ∈ log)
    (hfailover : n.failover = none) (hpropagates : n.propagatesErrors = true) :
    Derived g call log n.id (.failed e)
  /-- The failover came to it instead. -/
  | adopted {n : Node W} {e : ResolutionError} {failover : String} {o : Outcome} (hnode : g.node? n.id = some n)
    (herred : .erred call n.id e ∈ log) (hfailover : n.failover = some failover) (h : Derived g call log failover o)
    (hended : o.standing = .ended) : Derived g call log n.id (.resolved o.attributes)
  /-- The failover has failed, too. -/
  | givenUp {n : Node W} {e e' : ResolutionError} {failover : String} (hnode : g.node? n.id = some n)
    (herred : .erred call n.id e ∈ log) (hfailover : n.failover = some failover)
    (h : Derived g call log failover (.failed e')) : Derived g call log n.id (.failed e')
  /-- Something that it depends on has failed. -/
  | followed {n : Node W} {d : String} {e : ResolutionError} (hnode : g.node? n.id = some n)
    (hd : d ∈ n.dependencies.map Dependency.node) (h : Derived g call log d (.failed e)) :
    Derived g call log n.id (.failed e)

section

variable {g : Graph W} {wide : Prop} {s t : Session W}

theorem CameTo.node {n : Node W} {r : Except ResolutionError AttributeMap} (h : CameTo g s n r) :
    g.node? n.id = some n := by
  cases h with
  | computed hnode => exact hnode
  | fetched hnode => exact hnode

theorem CameTo.began {n : Node W} {r : Except ResolutionError AttributeMap} (h : CameTo g s n r) :
    ∃ ev ∈ s.shared.log, ev.starts s.call.number n.id = true := by
  cases h with
  | computed _ _ hbegun => exact ⟨_, hbegun, by simp [Event.starts, Node.id]⟩
  | fetched _ _ hbegun => exact ⟨_, hbegun, by simp [Event.starts, Node.id]⟩

theorem CameTo.mono {n : Node W} {r : Except ResolutionError AttributeMap} (h : CameTo g s n r) (hlater : Later s t) :
    CameTo g t n r := by
  cases h with
  | computed hnode hsupplied hbegun =>
    rw [← hlater.computation hnode hsupplied]
    refine .computed hnode (hlater.supplied hsupplied) ?_
    rw [hlater.number]
    exact hlater.log hbegun
  | fetched hnode hsupplied hbegun hr =>
    refine .fetched hnode (hlater.supplied hsupplied) ?_ ?_
    · rw [hlater.number]
      exact hlater.log hbegun
    · rw [hlater.fetchInput hnode hsupplied, hlater.call]
      exact hr.imp_right fun ⟨hlate, hclock⟩ => ⟨hlate, Nat.le_trans hclock hlater.clock⟩

/-- A node that did not fail came to something by itself. -/
theorem Derived.own_mem {call : Nat} {log : List Event} {id : String} {o : Outcome} (h : Derived g call log id o)
    (ho : o.standing = .ended) : ∃ r, .own call id r ∈ log := by
  cases h with
  | own _ hgave => exact ⟨.ok _, hgave⟩
  | spared _ herred | adopted _ herred => exact ⟨.error _, herred⟩
  | broken | givenUp | followed => cases ho

theorem Derived.mono {call : Nat} {log log' : List Event} {id : String} {o : Outcome}
    (h : Derived g call log id o) (hlog : log ⊆ log') : Derived g call log' id o := by
  induction h with
  | own hnode hgave => exact .own hnode (hlog hgave)
  | spared hnode herred hfailover hpropagates => exact .spared hnode (hlog herred) hfailover hpropagates
  | broken hnode herred hfailover hpropagates => exact .broken hnode (hlog herred) hfailover hpropagates
  | adopted hnode herred hfailover _ hended ih => exact .adopted hnode (hlog herred) hfailover ih hended
  | givenUp hnode herred hfailover _ ih => exact .givenUp hnode (hlog herred) hfailover ih
  | followed hnode hd _ ih => exact .followed hnode hd ih

/-- How far a node has come follows from what was put down. -/
inductive Tracks (g : Graph W) (s : Session W) (id : String) : Stage W → Prop
  | idle : Tracks g s id .idle
  | joining {asker : Asker} {group : Group} : Tracks g s id (.evaluated asker (.joining group))
  | queued {asker : Asker} {c : ConnectorNode W} (hnode : g.node? id = some (.connector c)) :
    Tracks g s id (.evaluated asker .queued)
  | fetching {asker : Asker} {c : ConnectorNode W} {fetch : Strand W (Except ConnectorError AttributeMap)}
    {limit : Alarm} (hnode : g.node? id = some (.connector c)) (hsupplied : Supplied g s id)
    (hbegun : .began s.call.number id ∈ s.shared.log) (hlimit : Activity.waitOf s.call.timeout ≤ limit.due)
    (hgives : ∀ r, fetch.Gives r → (c.connector (Pursuit.fetchInput c s)).Gives r) :
    Tracks g s id (.evaluated asker (.fetching fetch limit))
  | recovering {asker : Asker} {n : Node W} {e : ResolutionError} {failover : String} (hnode : g.node? id = some n)
    (hfailover : n.failover = some failover) (herred : .erred s.call.number id e ∈ s.shared.log) :
    Tracks g s id (.evaluated asker (.recovering e))
  | settled {o : Outcome} (h : Derived g s.call.number s.shared.log id o) : Tracks g s id (.settled o)

theorem Tracks.mono {id : String} {stage : Stage W} (h : Tracks g s id stage) (hlater : Later s t) :
    Tracks g t id stage := by
  have hnumber := hlater.number
  cases h with
  | idle => exact .idle
  | joining => exact .joining
  | queued hnode => exact .queued hnode
  | @fetching _ c _ _ hnode hsupplied hbegun hlimit hgives =>
    obtain rfl : c.id = id := (Graph.findNode_some hnode).2
    refine .fetching hnode (hlater.supplied hsupplied) (hnumber ▸ hlater.log hbegun) ?_ fun r hr => ?_
    · rw [hlater.call]
      exact hlimit
    · rw [hlater.fetchInput hnode hsupplied]
      exact hgives r hr
  | recovering hnode hfailover herred => exact .recovering hnode hfailover (hnumber ▸ hlater.log herred)
  | settled h => exact .settled (hnumber ▸ h.mono hlater.log)

/-- Everything about a call leads back to what its nodes came to by themselves. -/
structure Traced (g : Graph W) (s : Session W) : Prop where
  came : ∀ id r, .own s.call.number id r ∈ s.shared.log → ∃ n, n.id = id ∧ CameTo g s n r
  tracks : ∀ id, Tracks g s id (s.stage id)

namespace Traced

/-- Nodes go on, and what they came to by themselves is accounted for. -/
theorem later (h : Traced g s) (hlater : Later s t)
    (hown : ∀ id r, .own s.call.number id r ∈ t.shared.log →
      .own s.call.number id r ∈ s.shared.log ∨ ∃ n, n.id = id ∧ CameTo g t n r)
    (hstage : ∀ x, t.stage x = s.stage x ∨ Tracks g t x (t.stage x)) : Traced g t where
  came id r hmem := by
    rw [hlater.number] at hmem
    rcases hown id r hmem with hold | hnew
    · obtain ⟨n, hn, hcame⟩ := h.came id r hold
      exact ⟨n, hn, hcame.mono hlater⟩
    · exact hnew
  tracks x := by
    rcases hstage x with hsame | hnew
    · rw [hsame]
      exact (h.tracks x).mono hlater
    · exact hnew

/-- Nothing is put down about what nodes came to by themselves. -/
theorem quiet (h : Traced g s) (hlater : Later s t) {es : List Event} (hlog : t.shared.log = es ++ s.shared.log)
    (hes : ∀ e ∈ es, ∀ id r, e ≠ .own s.call.number id r)
    (hstage : ∀ x, t.stage x = s.stage x ∨ Tracks g t x (t.stage x)) : Traced g t := by
  refine h.later hlater (fun id r hmem => ?_) hstage
  rw [hlog] at hmem
  rcases List.mem_append.1 hmem with hnew | hold
  · exact absurd rfl (hes _ hnew id r)
  · exact .inl hold

/-- Nothing is put down at all. -/
theorem silent (h : Traced g s) (hlater : Later s t) (hlog : t.shared.log = s.shared.log)
    (hstage : ∀ x, t.stage x = s.stage x ∨ Tracks g t x (t.stage x)) : Traced g t := by
  have hnothing : t.shared.log = [] ++ s.shared.log := hlog
  exact h.quiet hlater hnothing (List.forall_mem_nil _) hstage

theorem derived (h : Traced g s) {id : String} {o : Outcome} (ho : s.stage id = .settled o) :
    Derived g s.call.number s.shared.log id o := by
  have htracks := h.tracks id
  rw [ho] at htracks
  cases htracks with
  | settled hderived => exact hderived

/-- A node that has ended has begun before. -/
theorem began (h : Traced g s) {id : String} (hended : s.standing id = .ended) :
    ∃ ev ∈ s.shared.log, ev.starts s.call.number id = true := by
  obtain ⟨o, ho, hstanding⟩ := Session.settled_of_ended hended
  obtain ⟨r, hown⟩ := (h.derived ho).own_mem hstanding
  obtain ⟨n, rfl, hcame⟩ := h.came id r hown
  exact hcame.began

theorem erred (h : Traced g s) {id : String} {asker : Asker} {e : ResolutionError}
    (hstage : s.stage id = .evaluated asker (.recovering e)) : .erred s.call.number id e ∈ s.shared.log := by
  have htracks := h.tracks id
  rw [hstage] at htracks
  cases htracks with
  | recovering _ _ herred => exact herred

/-- A node that has failed says why. -/
theorem failure (h : Traced g s) {id : String} (hfailed : s.standing id = .failed) :
    Derived g s.call.number s.shared.log id (.failed (s.failure id)) := h.derived (Session.settled_of_failed hfailed)

theorem drops (h : Traced g s) {crowd : Option Nat} (hdrops : Drops crowd s t) : Traced g t := by
  obtain ⟨es, hlog, hes⟩ := hdrops.log
  refine h.quiet (.of_drops hdrops) hlog (fun e he id r => ?_) fun x => ?_
  · obtain ⟨x, rfl⟩ := hes e he
    cases r <;> exact nofun
  · rcases hdrops.stage x with hsame | ⟨-, hidle⟩
    · exact .inl hsame
    · exact .inr (hidle ▸ .idle)

/-- The cell of one node changes, and nothing is put down about what it came to by itself. -/
theorem alters (h : Traced g s) {id : String} {es : List Event} (halters : Alters id es s t) (hlater : Later s t)
    (hes : ∀ e ∈ es, ∀ x r, e ≠ .own s.call.number x r) (htracks : Tracks g t id (t.stage id)) : Traced g t := by
  refine h.quiet hlater halters.log hes fun x => ?_
  by_cases hx : x = id
  · exact .inr (hx ▸ htracks)
  · exact .inl (Session.stage_of_alters halters hx)

/-- A node is settled with what leads back to something. -/
theorem settle (h : Traced g s) {id : String} {o : Outcome} (hopen : ∀ o, s.stage id ≠ .settled o)
    (hderived : Derived g s.call.number s.shared.log id o) : Traced g (s.settle id o) := by
  have halters := s.alters_settle id o
  have hlater : Later s (s.settle id o) := .of_alters halters hopen
  refine h.alters halters hlater (fun e he x r => ?_) ?_
  · rw [List.mem_singleton.1 he]
    cases r <;> exact nofun
  · rw [s.stage_settle]
    exact .settled (hlater.number ▸ hderived.mono hlater.log)

theorem setPhase (h : Traced g s) {id : String} {asker : Asker} {phase : Phase W}
    (hopen : ∀ o, s.stage id ≠ .settled o) (htracks : Tracks g s id (.evaluated asker phase)) :
    Traced g (s.setPhase id asker phase) := by
  have halters := s.alters_setPhase id asker phase
  have hlater : Later s (s.setPhase id asker phase) := .of_alters halters hopen
  refine h.alters halters hlater (List.forall_mem_nil _) ?_
  rw [s.stage_setPhase]
  exact htracks.mono hlater

/-- A fetch that is about to go on has begun, and can give nothing but what its connector gives. -/
theorem underway (h : Traced g s) {asker : Asker} {w : Waker} {c : ConnectorNode W}
    {fetch : Strand W (Except ConnectorError AttributeMap)} {limit : Alarm}
    (hunderway : Underway g asker w c s fetch limit t) :
    Traced g t ∧ (∃ phase, t.stage c.id = .evaluated asker phase) ∧ g.node? c.id = some (.connector c) ∧
      Supplied g t c.id ∧ .began t.call.number c.id ∈ t.shared.log ∧ Activity.waitOf t.call.timeout ≤ limit.due ∧
      ∀ r, fetch.Gives r → (c.connector (Pursuit.fetchInput c t)).Gives r := by
  cases hunderway with
  | goesOn hnode hstage =>
    have htracks := h.tracks c.id
    rw [hstage] at htracks
    cases htracks with
    | fetching hnode' hsupplied hbegun hlimit hgives =>
      obtain rfl := Node.connector.inj (Option.some.inj (hnode.symm.trans hnode'))
      exact ⟨h, ⟨_, hstage⟩, hnode, hsupplied, hbegun, hlimit, hgives⟩
  | @begins t phase hnode hstage _ hsupplied hpermit =>
    have htake := s.spares_takePermit c.id w
    rw [hpermit] at htake
    have hspares := htake.trans (t.spares_record (.began t.call.number c.id))
    have hlater : Later s (t.record (.began t.call.number c.id)) := .of_spares hspares
    refine ⟨h.quiet hlater hspares.log (fun e he id r => ?_) fun x => .inl (Session.stage_of_spares hspares x),
      ⟨phase, (Session.stage_of_spares hspares c.id).trans hstage⟩, hnode, hlater.supplied hsupplied,
      List.mem_cons_self, Nat.le_add_left _ _, fun r hr => hr⟩
    rw [List.mem_singleton.1 he]
    cases r <;> exact nofun

/-- What a node comes to by itself is accounted for. -/
theorem cameTo (h : Traced g s) {asker : Asker} {n : Node W} {r : Except ResolutionError AttributeMap}
    (hattempted : Attempted g asker n r s t) : CameTo g t n r := by
  cases hattempted with
  | @computed _ d group hnode _ hsupplied =>
    have hlater : Later s (s.record (.computed s.call.number d.id)) := .of_spares (s.spares_record _)
    have hcame : CameTo g (s.record (.computed s.call.number d.id)) (.definition d) (Pursuit.computation g d s) := by
      rw [← hlater.computation hnode hsupplied]
      exact .computed hnode (hlater.supplied hsupplied) List.mem_cons_self
    exact hcame.mono (.of_spares (Session.spares_record _ _))
  | @fetched _ u v c w fetch limit x hunderway hended =>
    obtain ⟨-, -, hnode, hsupplied, hbegun, hlimit, hgives⟩ := h.underway hunderway
    have hcomes := (Pursuit.fetchOn_gives asker w c fetch limit u).1 x v hended
    have hcame : CameTo g u (.connector c) (x.mapError (.connector c.id)) :=
      .fetched hnode hsupplied hbegun (hcomes.imp (hgives x) fun ⟨hlate, hdue⟩ => ⟨hlate, Nat.le_trans hlimit hdue⟩)
    rcases Pursuit.fetchOn_effect asker w c fetch limit u with ⟨_, -, hspares⟩ | ⟨_, _, _, hnone, -⟩
    · rw [hended] at hspares
      exact hcame.mono (.of_spares (hspares.trans (v.spares_record _)))
    · rw [hended] at hnone
      cases hnone

/-- What a node comes to by itself is put down. -/
theorem attempted (h : Traced g s) {asker : Asker} {n : Node W} {r : Except ResolutionError AttributeMap}
    (hattempted : Attempted g asker n r s t) :
    Traced g t ∧ (∃ phase, t.stage n.id = .evaluated asker phase) ∧ .own t.call.number n.id r ∈ t.shared.log := by
  have hcame := h.cameTo hattempted
  obtain ⟨_, hstretch⟩ := hattempted.stretch
  obtain ⟨phase, hstage⟩ := hstretch.evaluated
  obtain ⟨u, es, rfl, hspares, hes⟩ := hattempted.records
  have hown := u.spares_record (.own u.call.number n.id r)
  refine ⟨?_, ⟨phase, (Session.stage_of_spares hstretch.spares n.id).trans hstage⟩, List.mem_cons_self⟩
  refine h.later (.of_spares (hspares.trans hown)) (fun id r' hmem => ?_) fun x =>
    .inl (Session.stage_of_spares (hspares.trans hown) x)
  rw [hown.log, hspares.log, List.singleton_append] at hmem
  rcases List.mem_cons.1 hmem with hself | hmem
  · obtain ⟨-, rfl, rfl⟩ := Event.own_inj hself
    exact .inr ⟨n, rfl, hcame⟩
  rcases List.mem_append.1 hmem with hnew | hold
  · rcases hes _ hnew with heq | heq | heq <;> cases r' <;> cases heq
  · exact .inl hold

/-- **After every move everything leads back to what nodes came to by themselves.** -/
theorem move (h : Traced g s) (hs : Coherent g wide s) {b : Bool} (hmove : Move g b s t) : Traced g t := by
  have hlater := hmove.later hs
  -- what is evaluated is not settled, so that nothing is lost when its cell changes
  have hopen : ∀ {v : Session W} {id asker phase}, v.stage id = .evaluated asker phase →
      ∀ o, v.stage id ≠ .settled o := by
    intro v id asker phase hstage o ho
    rw [hstage] at ho
    cases ho
  cases hmove with
  | rests _ _ hstage _ _ hlog => exact h.silent hlater hlog fun x => .inl (hstage x)
  | notes => exact h.silent hlater rfl fun _ => .inl rfl
  | embarks _ hstart =>
    obtain ⟨hcall, hlog, -⟩ := opens_start hstart
    exact h.silent hlater hlog fun x => .inl (Session.stage_congr (congrArg Call.cells hcall) x)
  | @enters _ t u n asker w group hnode henter hstart =>
    obtain ⟨-, halters, -⟩ := Session.enterCell_enters (hs.fits n.id) henter
    obtain ⟨hcall, hlog, -⟩ := opens_start hstart
    refine h.silent hlater (hlog.trans halters.log) fun x => ?_
    by_cases hx : x = n.id
    · subst hx
      rw [u.stage_setPhase]
      exact .inr .joining
    · exact .inl (Session.stage_setPhase_of_ne halters hcall asker _ hx)
  | @queues _ t c asker w phase hnode hstage _ hsupplied hpermit =>
    have htake := s.spares_takePermit c.id w
    rw [hpermit] at htake
    have ht := h.quiet (.of_spares htake) htake.log (List.forall_mem_nil _)
      fun x => .inl (Session.stage_of_spares htake x)
    exact ht.setPhase (hopen ((Session.stage_of_spares htake c.id).trans hstage)) (.queued hnode)
  | @fetches _ t _ c asker w fetch limit hunderway hwaits =>
    obtain ⟨ht, ⟨phase, hstage⟩, hnode, hsupplied, hbegun, hlimit, hgives⟩ := h.underway hunderway
    obtain ⟨fetch', limit', hfetching, hdue, hless⟩ := (Pursuit.fetchOn_gives asker w c fetch limit t).2 _ hwaits
    rcases Pursuit.fetchOn_effect asker w c fetch limit t with ⟨_, hr, -⟩ | ⟨fetch'', limit'', v, hv, hspares⟩
    · rw [hwaits] at hr
      cases hr
    · rw [hwaits] at hv
      obtain ⟨-, rfl⟩ := Prod.mk.inj hv
      rw [v.stage_setPhase] at hfetching
      cases hfetching
      have hv := ht.quiet (.of_spares hspares) hspares.log (List.forall_mem_nil _)
        fun x => .inl (Session.stage_of_spares hspares x)
      have htracks : Tracks g t c.id (.evaluated asker (.fetching fetch' limit')) :=
        .fetching hnode hsupplied hbegun (hdue ▸ hlimit) fun r hr => hgives r (hless r hr)
      exact hv.setPhase (hopen ((Session.stage_of_spares hspares c.id).trans hstage))
        (htracks.mono (.of_spares hspares))
  | succeeds hattempted =>
    obtain ⟨ht, ⟨_, hstage⟩, hown⟩ := h.attempted hattempted
    exact ht.settle (hopen hstage) (.own hattempted.node hown)
  | turnsOver hattempted hfailover =>
    obtain ⟨ht, ⟨_, hstage⟩, hown⟩ := h.attempted hattempted
    exact ht.setPhase (hopen hstage) (.recovering hattempted.node hfailover hown)
  | isSpared hattempted hfailover hpropagates =>
    obtain ⟨ht, ⟨_, hstage⟩, hown⟩ := h.attempted hattempted
    exact ht.settle (hopen hstage) (.spared hattempted.node hown hfailover hpropagates)
  | breaks hattempted hfailover hpropagates =>
    obtain ⟨ht, ⟨_, hstage⟩, hown⟩ := h.attempted hattempted
    exact ht.settle (hopen hstage) (.broken hattempted.node hown hfailover hpropagates)
  | adopts hnode hfailover hstage hended =>
    obtain ⟨o, ho, hstanding⟩ := Session.settled_of_ended hended
    refine h.settle (hopen hstage) ?_
    rw [Session.attributesOf, Session.outcome?_eq_some_iff.2 ho, Option.elim_some]
    exact .adopted hnode (h.erred hstage) hfailover (h.derived ho) hstanding
  | falls hfalls =>
    cases hfalls with
    | givesUp hnode hfailover hstage hfailed =>
      exact h.settle (hopen hstage) (.givenUp hnode (h.erred hstage) hfailover (h.failure hfailed))
    | @follows t n asker group d hnode hstage hwanted hfailed hdrops hkept =>
      have hlater : Later s t := .of_drops hdrops
      refine (h.drops hdrops).settle (hopen (hkept.trans hstage)) ?_
      rw [hlater.number]
      rw [wanted_node s.call hnode] at hwanted
      exact .followed hnode hwanted ((h.failure hfailed).mono hlater.log)

theorem moves {b : Bool} (h : Traced g s) (hs : Coherent g wide s) (hmoves : Moves g wide s b t) : Traced g t :=
  hmoves.keeps hs (fun _ _ _ hc hmove ht => ht.move hc hmove) h

theorem kept (r : Resolver W) (passes : Call W → Nat → Prop) : Kept r passes fun c sh => Traced r.graph ⟨c, sh⟩ where
  starts c sh hfresh hnew := by
    refine ⟨fun id r hmem => absurd ?_ (hnew _ hmem), fun id => ?_⟩
    · exact Event.call_own _ _ r
    · rw [hfresh.stage]
      exact .idle
  turns s b t u _ hs h hmoves hcloses := by
    have ht := h.moves hs hmoves
    have hfinish : ∀ {v : Session W} (ending : Ending), Traced r.graph v → Traced r.graph (finish ending v) :=
      fun ending hv => hv.silent (.of_finish ending _) rfl fun _ => .inl rfl
    cases hcloses with
    | waits => exact ht
    | returns => exact hfinish _ ht
    | breaks _ _ hdrops => exact hfinish _ (ht.drops hdrops)
    | leaves hdrops => exact hfinish _ (ht.drops hdrops)
  elsewhere c sh sh' helse _ h := by
    obtain ⟨es, hlog, hes⟩ := helse.log
    refine h.quiet (.of_elsewhere helse) hlog (fun e he id r heq => hes e he ?_) fun _ => .inl rfl
    rw [heq]
    exact Event.call_own _ _ r

end Traced

end

/-- **In every state that can be reached everything leads back to what nodes came to by themselves.** -/
theorem Reachable.traced {r : Resolver W} {passes : Call W → Nat → Prop} {s : Sessions W} (h : Reachable r passes s) :
    ∀ c ∈ s.calls, Traced r.graph ⟨c, s.shared⟩ := (h.kept (Traced.kept r passes)).2

/-- A call returns what the nodes that it starts from were settled with. -/
structure Returns (g : Graph W) (c : Call W) (sh : Shared W) : Prop where
  ok : ∀ res, c.ending = some (.returned (.ok res)) →
    (∀ id ∈ wanted g c none, Session.standing ⟨c, sh⟩ id = .ended) ∧ res = resolution (g.roots c.requested) ⟨c, sh⟩
  error : ∀ e, c.ending = some (.returned (.error e)) →
    ∃ id ∈ wanted g c none, Session.stage ⟨c, sh⟩ id = .settled (.failed e)

/-- Until it ends there is nothing to show. -/
theorem Returns.of_open {g : Graph W} {c : Call W} {sh : Shared W} (h : c.ending = none) : Returns g c sh := by
  constructor
  · intro res hreturned
    rw [h] at hreturned
    cases hreturned
  · intro e hreturned
    rw [h] at hreturned
    cases hreturned

theorem Returns.kept (r : Resolver W) (passes : Call W → Nat → Prop) : Kept r passes (Returns r.graph) where
  starts c sh hfresh _ := .of_open hfresh.ending
  turns s b t u hending _ _ hmoves hcloses := by
    cases hcloses with
    | waits => exact .of_open (by rw [hmoves.call, hending])
    | returns hended =>
      refine ⟨fun res h => ?_, fun e h => ?_⟩
      · cases h
        exact ⟨hended, rfl⟩
      · cases h
    | @breaks _ u _ id crowd hwanted hfailed hdrops =>
      refine ⟨fun res h => ?_, fun e h => ?_⟩
      · cases h
      · cases h
        have hids : wanted r.graph u.call = wanted r.graph t.call :=
          wanted_congr r.graph (by rw [hdrops.call])
        exact ⟨id, congrFun hids none ▸ hwanted, hdrops.settled (Session.settled_of_failed hfailed)⟩
    | leaves =>
      refine ⟨fun res h => ?_, fun e h => ?_⟩
      · cases h
      · cases h
  elsewhere c sh sh' _ _ h := ⟨h.ok, h.error⟩

theorem Reachable.returns {r : Resolver W} {passes : Call W → Nat → Prop} {s : Sessions W} (h : Reachable r passes s) :
    ∀ c ∈ s.calls, Returns r.graph c s.shared := (h.kept (Returns.kept r passes)).2

end Resolver

end AttributeRelease
