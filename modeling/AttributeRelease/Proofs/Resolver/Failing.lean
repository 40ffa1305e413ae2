import AttributeRelease.Proofs.Resolver.Evaluation
import AttributeRelease.Proofs.Resolver.Provenance

/-!
How calls fail. The error that a call returns is what some node failed with by itself, a node that has no failover
and passes its failure on. In a call without crowds the first such failure ends the call in the same turn, and
nothing begins after it. A crowd may go on for a while, as one of its members that comes before still waits.
-/

namespace AttributeRelease

namespace Resolver

variable {W : Type}

/-- The failure of a node of the call is put down, and is passed on. -/
def Event.Breaks (g : Graph W) (call : Nat) (e : ResolutionError) (ev : Event) : Prop :=
  ∃ n, g.node? n.id = some n ∧ Node.Fatal n ∧ ev = .erred call n.id e

theorem Event.Breaks.call {g : Graph W} {call : Nat} {e : ResolutionError} {ev : Event} (h : ev.Breaks g call e) :
    ev.call = call := by
  obtain ⟨n, -, -, rfl⟩ := h
  rfl

/-- **A failure leads back to a node that failed by itself, along dependencies and failovers.** -/
theorem Derived.origin {g : Graph W} {call : Nat} {log : List Event} {id : String} {o : Outcome}
    (h : Derived g call log id o) {e : ResolutionError} (ho : o = .failed e) :
    ∃ n, Relation.ReflTransGen (Graph.Edge g.nodes) id n.id ∧ g.node? n.id = some n ∧ Node.Fatal n ∧
      .erred call n.id e ∈ log := by
  -- a failure that is not a node's own came along an edge, from a node that is settled with the same
  induction h with
  | own | spared | adopted => cases ho
  | @broken n _ hnode herred hfailover hpropagates =>
    cases ho
    exact ⟨n, .refl, hnode, ⟨hfailover, hpropagates⟩, herred⟩
  | givenUp hnode _ hfailover _ ih =>
    cases ho
    obtain ⟨n, hway, hfatal⟩ := ih rfl
    exact ⟨n, .head (edge_failover hnode hfailover) hway, hfatal⟩
  | followed hnode hd _ ih =>
    cases ho
    obtain ⟨n, hway, hfatal⟩ := ih rfl
    exact ⟨n, .head (edge_dependency hnode hd) hway, hfatal⟩

/-- What a node fails with by itself. -/
inductive FailsWith (g : Graph W) (s : Session W) : Node W → ResolutionError → Prop
  | computed {d : DefinitionNode} {source : DefinitionError}
    (h : d.compute (d.input g.isDefinition s.call.request (Pursuit.supplies s d.dependencies)) = .error source) :
    FailsWith g s (.definition d) (.definition d.id source)
  | fetched {c : ConnectorNode W} {source : ConnectorError}
    (h : (c.connector (Pursuit.fetchInput c s)).Gives (.error source)) :
    FailsWith g s (.connector c) (.connector c.id source)
  | late {c : ConnectorNode W} (h : Activity.waitOf s.call.timeout ≤ s.shared.scheduler.clock) :
    FailsWith g s (.connector c) (.connector c.id (.timeout s.call.timeout))

theorem CameTo.failsWith {g : Graph W} {s : Session W} {n : Node W} {e : ResolutionError}
    (h : CameTo g s n (.error e)) : FailsWith g s n e := by
  generalize hr : (.error e : Except ResolutionError AttributeMap) = r at h
  cases h with
  | @computed d =>
    rw [Pursuit.computation] at hr
    cases hd : d.compute (d.input g.isDefinition s.call.request (Pursuit.supplies s d.dependencies)) with
    | ok m =>
      rw [hd] at hr
      cases hr
    | error source =>
      rw [hd] at hr
      cases hr
      exact .computed hd
  | @fetched c x _ _ _ hx =>
    cases x with
    | ok m => cases hr
    | error source =>
      cases hr
      rcases hx with hgives | ⟨hlate, hclock⟩
      · exact .fetched hgives
      · cases hlate
        exact .late hclock

/-- The node that an error names. -/
def ResolutionError.node : ResolutionError → String
  | .unknownNode id | .connector id _ | .definition id _ => id

theorem FailsWith.node_eq {g : Graph W} {s : Session W} {n : Node W} {e : ResolutionError} (h : FailsWith g s n e) :
    ResolutionError.node e = n.id := by
  cases h <;> rfl

/-- No failure has been passed on so far. -/
def Unbroken (g : Graph W) (s : Session W) : Prop := ∀ ev ∈ s.shared.log, ∀ e, ¬ ev.Breaks g s.call.number e

/-- All failures that were passed on were this one, and nothing has begun after one of them. -/
def Halts (g : Graph W) (call : Nat) (e : ResolutionError) (log : List Event) : Prop :=
  ∀ later ev earlier, log = later ++ ev :: earlier → ∀ e', ev.Breaks g call e' →
    e' = e ∧ ∀ x ∈ later, ∀ id, x.starts call id = false

section

variable {g : Graph W} {wide : Prop} {s t u : Session W} {e : ResolutionError}

theorem Halts.append {call : Nat} {log : List Event} (h : Halts g call e log) (es : List Event)
    (hes : ∀ x ∈ es, (∀ e, ¬ x.Breaks g call e) ∧ ∀ id, x.starts call id = false) : Halts g call e (es ++ log) := by
  intro later ev earlier heq e' hbreaks
  rcases split_grown heq with ⟨between, rfl, hrest⟩ | ⟨hnew, -⟩
  · obtain ⟨hsame, hnone⟩ := h between ev earlier hrest e' hbreaks
    refine ⟨hsame, fun x hx => ?_⟩
    rcases List.mem_append.1 hx with hx | hx
    · exact (hes x hx).2
    · exact hnone x hx
  · exact absurd hbreaks ((hes ev hnew).1 e')

/-- The first failure that is passed on. -/
theorem Unbroken.break (h : Unbroken g s) (id : String) :
    Halts g s.call.number e (.erred s.call.number id e :: s.shared.log) := by
  intro later ev earlier heq e' hbreaks
  cases later with
  | nil =>
    obtain ⟨rfl, -⟩ := List.cons.inj heq
    obtain ⟨_, -, -, herred⟩ := hbreaks
    cases herred
    exact ⟨rfl, nofun⟩
  | cons x rest =>
    obtain ⟨-, hrest⟩ := List.cons.inj heq
    exact absurd hbreaks (h ev (hrest ▸ List.mem_append_right _ List.mem_cons_self) e')

/-- Nothing is passed on, and nothing begins, when fetches end and nodes are settled. -/
theorem Event.calm {call : Nat} {ev : Event} (h : (∃ id, ev = .ended call id) ∨ ∃ id o, ev = .settled call id o) :
    (∀ e, ¬ ev.Breaks g call e) ∧ ∀ id, ev.starts call id = false := by
  rcases h with ⟨id, rfl⟩ | ⟨id, o, rfl⟩
  · refine ⟨fun e h => ?_, fun id => by simp [Event.starts]⟩
    obtain ⟨_, -, -, heq⟩ := h
    cases heq
  · refine ⟨fun e h => ?_, fun id => by simp [Event.starts]⟩
    obtain ⟨_, -, -, heq⟩ := h
    cases heq

/-- Where a node has failed a failure was passed on. -/
theorem Traced.broken (h : Traced g s) {id : String} (hfailed : s.standing id = .failed) :
    ∃ ev ∈ s.shared.log, ev.Breaks g s.call.number (s.failure id) := by
  obtain ⟨n, -, hnode, hfatal, herred⟩ := (h.failure hfailed).origin rfl
  exact ⟨_, herred, n, hnode, hfatal, rfl⟩

/-- The call stays unbroken if what is put down passes no failure on. -/
theorem Unbroken.append (h : Unbroken g s) (hnumber : t.call.number = s.call.number) {es : List Event}
    (hlog : t.shared.log = es ++ s.shared.log) (hes : ∀ x ∈ es, ∀ e, ¬ x.Breaks g s.call.number e) : Unbroken g t := by
  intro ev hev e hbreaks
  rw [hlog] at hev
  rw [hnumber] at hbreaks
  rcases List.mem_append.1 hev with hev | hev
  · exact hes ev hev e hbreaks
  · exact h ev hev e hbreaks

/-- A node comes to something by itself. -/
theorem Unbroken.attempted (h : Unbroken g s) {asker : Asker} {n : Node W} {r : Except ResolutionError AttributeMap}
    (hattempted : Attempted g asker n r s t) :
    ∃ u, t = u.record (.own u.call.number n.id r) ∧ Unbroken g u := by
  obtain ⟨u, es, rfl, hspares, hes⟩ := hattempted.records
  refine ⟨u, rfl, h.append (by rw [hspares.call]) hspares.log fun x hx e hbreaks => ?_⟩
  obtain ⟨_, -, -, rfl⟩ := hbreaks
  rcases hes _ hx with heq | heq | heq <;> cases heq

/-- A move after which no node has failed leaves the call unbroken. -/
theorem Unbroken.move (h : Unbroken g s) (hs : Coherent g wide s) (hmove : Move g false s t) : Unbroken g t := by
  obtain ⟨es, hlog, hes⟩ := hmove.putsDown hs
  refine h.append (by rw [hmove.call]) hlog fun x hx e hbreaks => ?_
  obtain ⟨n, hn, hfatal, hx'⟩ := hbreaks
  have hputs := hes x hx
  cases hputs with
  | computed | began | ended | settled => cases hx'
  | @own m r hm hr =>
    cases r with
    | ok => cases hx'
    | error e' =>
      obtain ⟨-, hid, -⟩ := Event.erred.inj hx'
      rw [← hid] at hn
      obtain rfl := Option.some.inj (hm.symm.trans hn)
      exact hr rfl e' rfl hfatal

/-- A failure was passed on: nothing has begun after it, and whatever has failed has failed with it. -/
structure Broken (g : Graph W) (e : ResolutionError) (s : Session W) : Prop where
  halts : Halts g s.call.number e s.shared.log
  failed : ∀ id, s.standing id = .failed → s.failure id = e

/-- A node is settled with a failure that was passed on. -/
theorem Broken.settle (hhalts : Halts g s.call.number e s.shared.log) {id : String}
    (hfailed : ∀ x, x ≠ id → s.standing x = .failed → s.failure x = e) : Broken g e (s.settle id (.failed e)) := by
  have halters := s.alters_settle id (.failed e)
  refine ⟨?_, fun x hx => ?_⟩
  · rw [halters.call, halters.log]
    exact hhalts.append _ fun x hx => Event.calm (.inr ⟨_, _, List.mem_singleton.1 hx⟩)
  · by_cases hxid : x = id
    · subst hxid
      rw [Session.failure, Session.outcome?_eq_some_iff.2 (s.stage_settle x _)]
    · have hstage := Session.stage_of_alters halters hxid
      rw [Session.standing_eq_standing hstage] at hx
      rw [Session.failure, Session.outcome?_congr hstage]
      exact hfailed x hxid hx

/-- The first failure that is passed on breaks a call in which nothing has failed. -/
theorem Unbroken.breaks (h : Unbroken g s) (htraced : Traced g s) {asker : Asker} {n : Node W}
    (hattempted : Attempted g asker n (.error e) s t) : Broken g e (t.settle n.id (.failed e)) := by
  obtain ⟨_, hstretch⟩ := hattempted.stretch
  have hspares := hstretch.spares
  obtain ⟨u, rfl, hu⟩ := h.attempted hattempted
  refine Broken.settle (hu.break n.id) fun x _ hx => ?_
  rw [Session.standing_eq_standing (Session.stage_of_spares hspares x)] at hx
  obtain ⟨ev, hev, hbreaks⟩ := htraced.broken hx
  exact absurd hbreaks (h ev hev _)

/-- What fails with others fails with their failure. -/
theorem Broken.falls (h : Broken g e s) (hfalls : Falls g s t) : Broken g e t := by
  cases hfalls with
  | @givesUp n _ _ failover _ _ _ hfailed =>
    rw [h.failed failover hfailed]
    exact .settle h.halts fun x _ => h.failed x
  | @follows t n _ group d _ _ _ hfailed hdrops =>
    obtain ⟨es, hlog, hes⟩ := hdrops.log
    rw [h.failed d hfailed]
    refine .settle ?_ fun x _ hx => ?_
    · rw [hdrops.call, hlog]
      exact h.halts.append es fun x hx => Event.calm (.inl (hes x hx))
    · have hstage := Session.settled_of_failed hx
      have hkept : s.stage x = t.stage x := by
        rcases hdrops.stage x with hsame | ⟨-, hidle⟩
        · exact hsame.symm
        · rw [hidle] at hstage
          cases hstage
      rw [Session.standing_eq_standing hkept.symm] at hx
      rw [Session.failure, Session.outcome?_congr hkept.symm]
      exact h.failed x hx

/-- Nothing fails with others as long as no failure was passed on. -/
theorem Unbroken.not_falls (h : Unbroken g s) (htraced : Traced g s) (hfalls : Falls g s t) : False := by
  have hnone : ∀ id, s.standing id ≠ .failed := fun id hfailed => by
    obtain ⟨ev, hev, hbreaks⟩ := htraced.broken hfailed
    exact h ev hev _ hbreaks
  cases hfalls with
  | givesUp _ _ _ hfailed => exact hnone _ hfailed
  | follows _ _ _ hfailed => exact hnone _ hfailed

/-- **In a call without crowds only failures follow on a failure that was passed on.** -/
theorem Unbroken.moves (h : Unbroken g s) (hs : Coherent g wide s) (htraced : Traced g s) (hnarrow : ¬ wide) {b : Bool}
    (hmoves : Moves g wide s b t) : (b = false → Unbroken g t) ∧ (Unbroken g t ∨ ∃ e, Broken g e t) := by
  -- only the move that makes the first node fail passes a failure on, and after it no other kind of move is made
  induction hmoves with
  | refl => exact ⟨fun _ => h, .inl h⟩
  | tail hmoves hmove ih =>
    have ht := (ih.1 rfl).move (hmoves.coherent hs) hmove
    exact ⟨fun _ => ht, .inl ht⟩
  | fall hmoves hmove ih =>
    have ht := ih.1 rfl
    have htraced := htraced.moves hs hmoves
    refine ⟨nofun, .inr ?_⟩
    cases hmove with
    | breaks hattempted => exact ⟨_, ht.breaks htraced hattempted⟩
    | falls hfalls => exact (ht.not_falls htraced hfalls).elim
  | follow hmoves hfalls ih =>
    refine ⟨nofun, .inr ?_⟩
    rcases ih.2 with ht | ⟨e, ht⟩
    · exact (ht.not_falls (htraced.moves hs hmoves) hfalls).elim
    · exact ⟨e, ht.falls hfalls⟩
  | slack _ ih => exact ⟨nofun, .inl (ih.1 rfl)⟩
  | resume hwide => exact absurd hwide hnarrow

end

/-- A call without crowds is unbroken until it ends, and ends with the first failure that is passed on. -/
structure Stops (g : Graph W) (c : Call W) (sh : Shared W) : Prop where
  unbroken : c.ending = none → Unbroken g ⟨c, sh⟩
  halts : ∀ ev ∈ sh.log, ∀ e, ev.Breaks g c.number e →
    c.ending = some (.returned (.error e)) ∧ Halts g c.number e sh.log

theorem Stops.of_unbroken {g : Graph W} {s : Session W} (h : Unbroken g s) : Stops g s.call s.shared where
  unbroken _ := h
  halts ev hev e hbreaks := absurd hbreaks (h ev hev e)

theorem Stops.kept (r : Resolver W) (passes : Call W → Nat → Prop) :
    Kept r passes fun c sh => Traced r.graph ⟨c, sh⟩ ∧ (¬ Wide r.graph c → Stops r.graph c sh) where
  starts c sh hfresh hnew := by
    refine ⟨(Traced.kept r passes).starts c sh hfresh hnew, fun _ => ?_⟩
    have hunbroken : Unbroken r.graph ⟨c, sh⟩ := fun ev hev e hbreaks => hnew ev hev hbreaks.call
    exact .of_unbroken hunbroken
  turns s b t u hending hs h hmoves hcloses := by
    obtain ⟨htraced, hstops⟩ := h
    refine ⟨(Traced.kept r passes).turns s b t u hending hs htraced hmoves hcloses, fun hnarrow => ?_⟩
    rw [Wide.congr (hcloses.wanted.trans hmoves.wanted)] at hnarrow
    obtain ⟨hcalm, hany⟩ := ((hstops hnarrow).unbroken hending).moves hs htraced hnarrow hmoves
    have hdropped : ∀ {crowd : Option Nat} {v : Session W}, Drops crowd t v → Unbroken r.graph t →
        Unbroken r.graph v := by
      intro crowd v hdrops ht
      obtain ⟨es, hlog, hes⟩ := hdrops.log
      exact ht.append (by rw [hdrops.call]) hlog fun x hx => (Event.calm (.inl (hes x hx))).1
    have hfinish : ∀ {v : Session W} (ending : Ending), Unbroken r.graph v → Unbroken r.graph (finish ending v) :=
      fun ending hv => hv
    cases hcloses with
    | waits => exact .of_unbroken (hcalm rfl)
    | returns => exact .of_unbroken (hfinish _ (hcalm rfl))
    | leaves hdrops => exact .of_unbroken (hfinish _ (hdropped hdrops (hcalm rfl)))
    | @breaks _ u _ id _ _ hfailed hdrops =>
      -- the call ends with what a root has failed with, and that was passed on in this turn
      refine ⟨nofun, fun ev hev e hbreaks => ?_⟩
      obtain ⟨es, hlog, hes⟩ := hdrops.log
      have ht := htraced.moves hs hmoves
      rcases hany with hunbroken | ⟨e', hbroken⟩
      · obtain ⟨ev', hev', hbreaks'⟩ := ht.broken hfailed
        exact absurd hbreaks' (hunbroken ev' hev' _)
      · have hnumber : u.call.number = t.call.number := by rw [hdrops.call]
        have hhalts : Halts r.graph u.call.number e' u.shared.log := by
          rw [hnumber, hlog]
          exact hbroken.halts.append es fun x hx => Event.calm (.inl (hes x hx))
        obtain ⟨later, earlier, heq⟩ := List.append_of_mem hev
        obtain ⟨rfl, -⟩ := hhalts later ev earlier heq e hbreaks
        refine ⟨?_, hhalts⟩
        rw [← hbroken.failed id hfailed]
        rfl
  elsewhere c sh sh' helse hclock h := by
    obtain ⟨htraced, hstops⟩ := h
    refine ⟨(Traced.kept r passes).elsewhere c sh sh' helse hclock htraced, fun hnarrow => ?_⟩
    obtain ⟨es, hlog, hes⟩ := helse.log
    have hothers : ∀ x ∈ es, (∀ e, ¬ x.Breaks r.graph c.number e) ∧ ∀ id, x.starts c.number id = false := by
      intro x hx
      refine ⟨fun e hbreaks => hes x hx hbreaks.call, fun id => ?_⟩
      rw [Bool.eq_false_iff]
      exact fun hstart => hes x hx (Event.call_of_starts hstart)
    have hold : ∀ ev ∈ sh'.log, ∀ e, ev.Breaks r.graph c.number e → ev ∈ sh.log := by
      intro ev hev e hbreaks
      rw [hlog] at hev
      exact (List.mem_append.1 hev).resolve_left fun hnew => (hothers ev hnew).1 e hbreaks
    refine ⟨fun hopen ev hev e hbreaks => ?_, fun ev hev e hbreaks => ?_⟩
    · exact (hstops hnarrow).unbroken hopen ev (hold ev hev e hbreaks) e hbreaks
    · obtain ⟨hending, hhalts⟩ := (hstops hnarrow).halts ev (hold ev hev e hbreaks) e hbreaks
      refine ⟨hending, ?_⟩
      rw [hlog]
      exact hhalts.append es hothers

/-! ### Every run -/

/-- How a call fails. -/
structure FailsFast (r : Resolver W) (c : Call W) (sh : Shared W) : Prop where
  /-- The error that is returned is that of a node within reach whose failure is passed on. -/
  origin : ∀ e, c.ending = some (.returned (.error e)) → ∃ root ∈ r.graph.roots c.requested, ∃ n,
    Relation.ReflTransGen (Graph.Edge r.graph.nodes) root.id n.id ∧ r.graph.node? n.id = some n ∧
      n.failover = none ∧ n.propagatesErrors = true ∧ .erred c.number n.id e ∈ sh.log
  /-- A node that has failed by itself has begun before, and this is what it failed with. -/
  cause : ∀ id e, .erred c.number id e ∈ sh.log → ∃ n, n.id = id ∧ r.graph.node? id = some n ∧
    FailsWith r.graph ⟨c, sh⟩ n e ∧ ∃ ev ∈ sh.log, ev.starts c.number id = true
  /-- Fetches are never turned away. -/
  opened : sh.permits.closed = false
  /-- No other failure is returned. -/
  spared : ∀ n e, r.graph.node? n.id = some n → .erred c.number n.id e ∈ sh.log →
    n.failover ≠ none ∨ n.propagatesErrors = false → c.ending ≠ some (.returned (.error e))
  /-- If nothing asks for more than are given turns in order, the first such failure ends the call at once. -/
  stops : (r.graph.roots c.requested).length ≤ Group.maxInOrder →
    (∀ n ∈ r.graph.nodes, n.dependencies.length ≤ Group.maxInOrder) →
    ∀ later ev earlier, sh.log = later ++ ev :: earlier → ∀ n e, r.graph.node? n.id = some n → n.failover = none →
      n.propagatesErrors = true → ev = .erred c.number n.id e →
      c.ending = some (.returned (.error e)) ∧ ∀ x ∈ later, ∀ id, x.starts c.number id = false

/--
**Failing fast.** Whatever a call returns as its error is what a node within its reach failed with by itself, one
that has no failover and passes its failure on; and in a call without crowds such a failure ends the call in the
same step.
-/
theorem Reachable.failsFast {r : Resolver W} {passes : Call W → Nat → Prop} {s : Sessions W} {c : Call W}
    (hs : Reachable r passes s) (hc : c ∈ s.calls) : FailsFast r c s.shared := by
  have htraced := hs.traced c hc
  have hstops := ((hs.kept (Stops.kept r passes)).2 c hc).2
  have hcause : ∀ id e, .erred c.number id e ∈ s.shared.log → ∃ n, n.id = id ∧ r.graph.node? id = some n ∧
      FailsWith r.graph ⟨c, s.shared⟩ n e ∧ ∃ ev ∈ s.shared.log, ev.starts c.number id = true := by
    intro id e herred
    obtain ⟨n, rfl, hcame⟩ := htraced.came id (.error e) herred
    exact ⟨n, rfl, hcame.node, hcame.failsWith, hcame.began⟩
  have horigin : ∀ e, c.ending = some (.returned (.error e)) → ∃ root ∈ r.graph.roots c.requested, ∃ n,
      Relation.ReflTransGen (Graph.Edge r.graph.nodes) root.id n.id ∧ r.graph.node? n.id = some n ∧
        n.failover = none ∧ n.propagatesErrors = true ∧ .erred c.number n.id e ∈ s.shared.log := by
    intro e hreturned
    obtain ⟨id, hid, hstage⟩ := (hs.returns c hc).error e hreturned
    obtain ⟨root, hroot, rfl⟩ := List.mem_map.1 hid
    obtain ⟨n, hway, hnode, ⟨hfailover, hpropagates⟩, herred⟩ := (htraced.derived hstage).origin rfl
    exact ⟨root, hroot, n, hway, hnode, hfailover, hpropagates, herred⟩
  refine ⟨horigin, hcause, hs.sound.opened, fun n e hnode herred hspared hreturned => ?_,
    fun hroots hnodes later ev earlier heq n e hnode hfailover hpropagates herred => ?_⟩
  · -- an error names the node that it comes from, so that the one returned would have to be this node's
    obtain ⟨_, _, m, -, hnode', hfailover, hpropagates, herred'⟩ := horigin e hreturned
    obtain ⟨n', -, hn', hfails, -⟩ := hcause _ _ herred
    obtain ⟨m', -, hm', hfails', -⟩ := hcause _ _ herred'
    obtain rfl := Option.some.inj (hnode.symm.trans hn')
    obtain rfl := Option.some.inj (hnode'.symm.trans hm')
    rw [hfails.node_eq.symm.trans hfails'.node_eq, hnode'] at hnode
    obtain rfl := Option.some.inj hnode
    rcases hspared with hsome | hkeeps
    · exact hsome hfailover
    · rw [hpropagates] at hkeeps
      cases hkeeps
  · have hbreaks : ev.Breaks r.graph c.number e := ⟨n, hnode, ⟨hfailover, hpropagates⟩, herred⟩
    have hmem : ev ∈ s.shared.log := by
      rw [heq]
      exact List.mem_append_right _ List.mem_cons_self
    obtain ⟨hending, hhalts⟩ := (hstops (not_wide hroots hnodes)).halts ev hmem e hbreaks
    exact ⟨hending, (hhalts later ev earlier heq e hbreaks).2⟩

namespace Refused

/-- The directory turns everybody away. -/
def resolver : Resolver Unit := { graph := Sample.graph fun _ => .done (.error (.backend "down")) }

/-- The call has had its only turn. -/
def failed : Sessions Unit := Sample.begun resolver [Sample.call 0]

theorem failsFast_of_failed : ∃ c ∈ failed.calls,
    c.ending = some (.returned (.error (.connector "directory" (.backend "down")))) ∧
      FailsFast resolver c failed.shared := by
  have hreachable : Reachable resolver (fun _ _ => True) failed := Sample.reachable_begun_call resolver _ 0
  have hmem : failed.calls[0] ∈ failed.calls := List.getElem_mem _
  exact ⟨_, hmem, rfl, hreachable.failsFast hmem⟩

end Refused

end Resolver

end AttributeRelease
