import AttributeRelease.Proofs.Resolver.Evaluation
import AttributeRelease.Proofs.Resolver.Permits
import AttributeRelease.Proofs.Resolver.Provenance
import Mathlib.Algebra.BigOperators.Group.List.Lemmas
import Mathlib.Algebra.Order.BigOperators.Group.List
import Mathlib.Algebra.Order.Group.Nat

/-!
Calls never come to a standstill. Somebody waits for a node, for a permit or for a fetch. A node that is asked for is
evaluated, or its gate has room; permits are held by those who fetch, or can begin to; and no fetch outlasts its
time. As asking goes down the graph, it leads from everybody who waits to somebody who can go on.
-/

namespace AttributeRelease

section

variable {τ : Type} [DecidableEq τ] {k : Scheduler} {g : Gate τ} {t : τ} {w : Waker}

theorem Scheduler.steps_pass (k : Scheduler) (g : Gate τ) (t : τ) (w : Waker) :
    k.steps ≤ (k.pass g t w).2.2.steps + 1 := by
  have hpostpone : (k.postpone w).steps = k.steps := by
    unfold postpone
    split <;> rfl
  unfold pass
  dsimp only
  split
  · dsimp only
    split
    · exact Nat.le_succ _
    · rw [hpostpone]
      exact Nat.le_succ _
  · dsimp only [step]
    omega

/-- Nobody waits before a closed gate. -/
theorem Scheduler.pass_closed (hgranted : g.granted = []) (hclosed : g.closed = true) (hsteps : k.steps ≠ 0) :
    (k.pass g t w).1 = .excused := by
  have hstep : (k.steps != 0) = true := bne_iff_ne.2 hsteps
  have henter : (g.enter t w true).1 = .excused := by
    rw [Gate.enter, if_neg (hgranted ▸ List.not_mem_nil), hclosed, if_pos rfl, if_pos rfl]
  unfold pass
  rw [hstep]
  dsimp only
  generalize g.enter t w true = out at henter ⊢
  obtain ⟨passage, g'⟩ := out
  obtain rfl := henter
  rfl

end

namespace Resolver

variable {W : Type}

/-- Somebody was told about a node: that took a step at most, and all nodes are as they were. -/
structure Told (s t : Session W) : Prop where
  stage : ∀ x, t.stage x = s.stage x
  fits : ∀ x, (t.cell x).Fits
  steps : s.shared.scheduler.steps ≤ t.shared.scheduler.steps + 1

section

variable {g : Graph W} {wide : Prop} {s t : Session W} {n : Node W} {o : Outcome}

theorem Session.enterCell_settled {id : String} (hfits : ∀ x, (s.cell x).Fits) (ho : s.stage id = .settled o)
    (hsteps : s.shared.scheduler.steps ≠ 0) (asker : Asker) (w : Waker) :
    ∃ t, s.enterCell id asker w = (.excused, t) ∧ Told s t := by
  have hid := hfits id
  obtain ⟨-, hstage⟩ := hid
  rw [show (s.cell id).stage = .settled o from ho] at hstage
  have hpassage : (s.enterCell id asker w).1 = .excused := Scheduler.pass_closed hstage.2 hstage.1 hsteps
  have halters := s.alters_enterCell id asker w
  have hless : s.shared.scheduler.steps ≤ (s.enterCell id asker w).2.shared.scheduler.steps + 1 :=
    Scheduler.steps_pass _ _ _ _
  obtain ⟨gate, hattempt, hcell⟩ := s.enterCell_attempt id asker w
  generalize s.enterCell id asker w = out at hpassage halters hless hattempt hcell
  obtain ⟨passage, t⟩ := out
  obtain rfl : passage = .excused := hpassage
  refine ⟨t, rfl, fun x => ?_, fun x => ?_, hless⟩
  · by_cases hx : x = id
    · rw [hx, Session.stage, hcell]
    · exact Session.stage_of_alters halters hx
  · by_cases hx : x = id
    · rw [hx, hcell]
      refine (hfits id).waits hattempt (show Gate.Passage.excused ≠ .enters by decide) fun phase hphase => ?_
      rw [show (s.cell id).stage = .settled o from ho] at hphase
      cases hphase
    · rw [halters.cell x hx]
      exact hfits x

/-- Whoever asks for a settled node is told at once. -/
theorem ask_settled (hn : g.node? n.id = some n) (hfits : ∀ x, (s.cell x).Fits) (ho : s.stage n.id = .settled o)
    (hsteps : s.shared.scheduler.steps ≠ 0) (levels : Nat) (w : Waker) (asker : Asker) :
    ∃ t, ask g (levels + 1) w asker n.id s = (o.standing, t) ∧ Told s t := by
  rw [ask, hn]
  dsimp only
  by_cases hknows : (s.cell n.id).gate.knows asker = true
  · obtain ⟨t, ht, htold⟩ := Session.enterCell_settled hfits ho hsteps asker w
    have hstanding : t.standing n.id = o.standing := Session.standing_of_settled ((htold.stage n.id).trans ho)
    rw [if_pos hknows, ht, ← hstanding]
    exact ⟨t, rfl, htold⟩
  · rw [if_neg hknows, show (s.cell n.id).stage = .settled o from ho]
    exact ⟨s, rfl, fun _ => rfl, hfits, Nat.le_succ _⟩

/-- A small group whose members are all settled does not wait. -/
theorem turnInOrder_settled {ids : List String} (hknown : ∀ id ∈ ids, ∃ n, g.node? id = some n) (levels : Nat)
    (holder : Option String) (w : Waker) (places : List Nat) (hfits : ∀ x, (s.cell x).Fits)
    (hsettled : ∀ id ∈ ids, ∃ o, s.stage id = .settled o) (hsteps : places.length ≤ s.shared.scheduler.steps) :
    (Group.turnInOrder (askAt (ask g (levels + 1)) holder ids) w places true s).1 ≠ .waits := by
  induction places generalizing s with
  | nil =>
    intro h
    cases h
  | cons place rest ih =>
    rw [List.length_cons] at hsteps
    rw [Group.turnInOrder, askAt]
    cases hid : ids[place]? with
    | none => exact ih hfits hsettled (Nat.le_of_succ_le hsteps)
    | some id =>
      have hmem := List.mem_of_getElem? hid
      obtain ⟨n, hn⟩ := hknown id hmem
      obtain rfl := (Graph.findNode_some hn).2
      obtain ⟨o, ho⟩ := hsettled n.id hmem
      obtain ⟨t, ht, htold⟩ := ask_settled hn hfits ho (by omega) levels w ⟨holder, place⟩
      have hrest := ih (s := t) htold.fits (fun x hx => by rw [htold.stage]; exact hsettled x hx)
        (by have := htold.steps; omega)
      dsimp only
      rw [ht]
      cases o with
      | resolved | suppressed => exact hrest
      | failed =>
        intro h
        cases h

/-- A fetch whose time is over ends. -/
theorem fetchOn_over (asker : Asker) (w : Waker) (c : ConnectorNode W)
    (fetch : Strand W (Except ConnectorError AttributeMap)) {limit : Alarm}
    (hsteps : s.shared.scheduler.steps ≠ 0) (hdue : limit.due ≤ s.shared.scheduler.clock) :
    (Pursuit.fetchOn asker w c fetch limit s).1 ≠ none := by
  have hquiet := Strand.quiet_goOn (s.party c.id) w fetch s.shared.world s.shared.scheduler
  unfold Pursuit.fetchOn
  dsimp only
  generalize fetch.goOn (s.party c.id) w s.shared.world s.shared.scheduler = step at hquiet ⊢
  obtain ⟨progress, world, k⟩ := step
  cases progress with
  | ended r =>
    intro h
    cases h
  | waits fetch' =>
    have hclock : k.clock = s.shared.scheduler.clock := hquiet.clock
    have hfalse := Scheduler.rings_false k limit w (s.shared.scheduler.steps != 0 && k.steps == 0)
    dsimp only
    rw [Scheduler.isOver]
    generalize k.rings limit w (s.shared.scheduler.steps != 0 && k.steps == 0) = look at hfalse ⊢
    obtain ⟨isOver, limit', k'⟩ := look
    cases isOver with
    | true =>
      intro h
      cases h
    | false =>
      obtain ⟨-, -, hlate | ⟨hfree, hzero⟩⟩ := hfalse rfl
      · omega
      · simp [hsteps, hzero] at hfree

/-! ### What a call can do -/

/--
What a call can do in a turn that has steps left. What is asserted of turns holds whatever the clock shows and however
many others wait by then.
-/
inductive CanGoOn (g : Graph W) (s : Session W) : Prop
  /-- It has not begun. -/
  | begins (hbegun : s.call.begun = none)
  /-- A node that is asked for is evaluated. -/
  | starts {n : Node W} {asker : Asker} (hnode : g.node? n.id = some n) (hidle : s.stage n.id = .idle)
    (hasking : Asking g s asker n.id) (henters : ∀ (k : Scheduler) (w : Waker), k.steps ≠ 0 →
      (Session.enterCell (reschedule s fun _ => k) n.id asker w).1 = .enters)
  /-- A connector that waits for a permit has one, or there is one to take. -/
  | fetches {c : ConnectorNode W} {asker : Asker} (hnode : g.node? c.id = some (.connector c))
    (hstage : s.stage c.id = .evaluated asker .queued) (henters : ∀ (k : Scheduler) (w : Waker), k.steps ≠ 0 →
      (Session.takePermit (reschedule s fun _ => k) c.id w).1 = .enters)
  /-- A fetch is under way, and ends when its time is over at the latest. -/
  | ends {c : ConnectorNode W} {asker : Asker} {fetch : Strand W (Except ConnectorError AttributeMap)} {limit : Alarm}
    (hnode : g.node? c.id = some (.connector c)) (hstage : s.stage c.id = .evaluated asker (.fetching fetch limit))
    (hends : ∀ (k : Scheduler) (w : Waker), k.steps ≠ 0 → limit.due ≤ k.clock →
      (Pursuit.fetchOn asker w c fetch limit (reschedule s fun _ => k)).1 ≠ none)
  /-- All that a node or the call itself asks for is settled. Every member is told so, and a small group comes out. -/
  | gathers {holder : Option String} {group : Group} (hgroup : s.group? holder = some group)
    (htold : ∀ (k : Scheduler) (w : Waker) (levels place : Nat) (id : String), k.steps ≠ 0 →
      (wanted g s.call holder)[place]? = some id → s.standing id ≠ .waits ∧
        (askAt (ask g (levels + 1)) holder (wanted g s.call holder) w place (reschedule s fun _ => k)).1 =
          s.standing id)
    (hverdict : group.crowd = none → ∀ (k : Scheduler) (w : Waker) (levels : Nat), group.size ≤ k.steps →
      (group.turn (askAt (ask g (levels + 1)) holder (wanted g s.call holder)) w (reschedule s fun _ => k)).1 ≠ .waits)
  /-- The failover of a node that has failed is settled, and the node is settled with it. -/
  | recovers {n : Node W} {asker : Asker} {e : ResolutionError} {failover : String} (hnode : g.node? n.id = some n)
    (hfailover : n.failover = some failover) (hstage : s.stage n.id = .evaluated asker (.recovering e))
    (hsettles : ∀ (k : Scheduler) (w : Waker) (levels : Nat), k.steps ≠ 0 →
      (Pursuit.recover ⟨g, ask g (levels + 1), asker, w⟩ n failover (reschedule s fun _ => k)).1 ≠ .waits)

theorem known_wanted (g : Graph W) (c : Call W) (holder : Option String) {id : String} (hid : id ∈ wanted g c holder) :
    ∃ n, g.node? id = some n := by
  obtain ⟨rank, hrank, hlt⟩ := exists_ranks g
  obtain ⟨_, -, hknown, -⟩ := exists_bound hrank hlt c holder
  exact (hknown id hid).2

/-- A group can come out of its turn, or one of its members asks for a node that is not settled. -/
theorem Coherent.gathers (hs : Coherent g wide s) {holder : Option String} {group : Group}
    (hgroup : s.group? holder = some group) :
    CanGoOn g s ∨ ∃ place x, Asking g s ⟨holder, place⟩ x ∧ s.standing x = .waits := by
  by_cases hall : ∀ id ∈ wanted g s.call holder, s.standing id ≠ .waits
  · refine .inl (.gathers hgroup (fun k w levels place id hsteps hid => ?_) fun hcrowd k w levels hsteps => ?_)
    · have hmem := List.mem_of_getElem? hid
      obtain ⟨n, hn⟩ := known_wanted g s.call holder hmem
      obtain rfl := (Graph.findNode_some hn).2
      obtain ⟨o, ho, hstanding⟩ := Session.settled_of_standing (hall n.id hmem)
      obtain ⟨t, ht, -⟩ := ask_settled (s := reschedule s fun _ => k) hn hs.fits ho hsteps levels w ⟨holder, place⟩
      refine ⟨hall n.id hmem, ?_⟩
      rw [askAt, hid]
      dsimp only
      rw [ht, hstanding]
    · rw [Group.turn, hcrowd]
      refine turnInOrder_settled (s := reschedule s fun _ => k) (fun _ hid => known_wanted g s.call holder hid) levels
        holder w _ hs.fits (fun id hid => ?_) ((List.length_range).trans_le hsteps)
      obtain ⟨o, ho, -⟩ := Session.settled_of_standing (hall id hid)
      exact ⟨o, ho⟩
  · obtain ⟨x, hx, hwaits⟩ : ∃ x ∈ wanted g s.call holder, s.standing x = .waits := by
      simpa only [not_forall, not_not, exists_prop] using hall
    obtain ⟨place, hplace⟩ := List.mem_iff_getElem?.1 hx
    refine .inr ⟨place, x, .member hgroup hplace fun number hnumber => ?_, hwaits⟩
    have howns : s.Owns holder number := ⟨group.size, by rw [hgroup, ← hnumber]⟩
    cases hregister : s.shared.scheduler.register number with
    | none => exact absurd hwaits (hs.forgotten holder number howns hregister x hx)
    | some register =>
      refine ⟨register, rfl, ?_⟩
      by_contra hgone
      exact ((hs.agrees holder number register howns hregister place x hplace).2 (Bool.eq_false_iff.2 hgone)).1 hwaits

/-- A node that has failed can be settled, or asks for a failover that is not. -/
theorem Coherent.recovers (hs : Coherent g wide s) {asker : Asker} {e : ResolutionError} {failover : String}
    (hnode : g.node? n.id = some n) (hfailover : n.failover = some failover)
    (hstage : s.stage n.id = .evaluated asker (.recovering e)) :
    CanGoOn g s ∨ Asking g s ⟨some n.id, n.dependencies.length⟩ failover ∧ s.standing failover = .waits := by
  by_cases hwaits : s.standing failover = .waits
  · exact .inr ⟨.failover hnode hfailover hstage, hwaits⟩
  · refine .inl (.recovers hnode hfailover hstage fun k w levels hsteps => ?_)
    obtain ⟨m, hm⟩ := known_failover hnode hfailover
    obtain rfl := (Graph.findNode_some hm).2
    obtain ⟨o, ho, -⟩ := Session.settled_of_standing hwaits
    obtain ⟨t, ht, -⟩ := ask_settled (s := reschedule s fun _ => k) hm hs.fits ho hsteps levels w
      ⟨some n.id, n.dependencies.length⟩
    rw [Pursuit.recover]
    dsimp only
    rw [ht]
    intro h
    cases o <;> cases h

/-- A node that nobody evaluates can start, for whoever asks for it or for one who came before. -/
theorem Coherent.starts (hs : Coherent g wide s) (htended : Tended g s) (hnode : g.node? n.id = some n)
    (hidle : s.stage n.id = .idle) {asker : Asker} (hasking : Asking g s asker n.id) : CanGoOn g s := by
  obtain ⟨horderly, hstage⟩ := hs.fits n.id
  rw [show (s.cell n.id).stage = .idle from hidle] at hstage
  obtain ⟨hopen, hroom⟩ := hstage
  have hwaits : s.standing n.id = .waits := by
    rw [Session.standing, Session.outcome?_eq, hidle]
    rfl
  rcases horderly.admits hopen (by rw [hroom]; exact one_ne_zero) with ⟨first, hgranted, hadmits⟩ | hadmits
  · have hfirst := htended n.id first (.inr ⟨hwaits, Gate.mem_waiting.2 (.inl hgranted)⟩)
    exact .starts hnode hidle hfirst fun k w hsteps => Scheduler.pass_admits hadmits w hsteps
  · exact .starts hnode hidle hasking fun k w hsteps => Scheduler.pass_admits (hadmits asker) w hsteps

end

/-- One of the calls that have not ended can go on. -/
def GoesOn (r : Resolver W) (s : Sessions W) : Prop :=
  ∃ c ∈ s.calls, c.ending = none ∧ CanGoOn r.graph ⟨c, s.shared⟩

section

variable {r : Resolver W} {passes : Call W → Nat → Prop} {s : Sessions W} {c : Call W} {id : String} {asker : Asker}

theorem Reachable.coherent (h : Reachable r passes s) (hc : c ∈ s.calls) (hending : c.ending = none) :
    Coherent r.graph (Wide r.graph c) ⟨c, s.shared⟩ := by
  obtain ⟨i, hi⟩ := List.mem_iff_getElem?.1 hc
  exact h.sound.coherent i c hi hending

/-- What is evaluated belongs to a call that has not ended. -/
theorem Reachable.ending (h : Reachable r passes s) (hc : c ∈ s.calls) {phase : Phase W}
    (hstage : Session.stage ⟨c, s.shared⟩ id = .evaluated asker phase) : c.ending = none := by
  by_contra hended
  exact (h.attends c hc).after hended id asker phase hstage

/-- A fetch that is under way. -/
theorem Reachable.goesOn_of_fetching (h : Reachable r passes s) (hc : c ∈ s.calls)
    (hfetching : (Session.stage ⟨c, s.shared⟩ id).isFetching = true) : GoesOn r s := by
  have htracks := (h.traced c hc).tracks id
  generalize hstage : Session.stage ⟨c, s.shared⟩ id = stage at htracks hfetching
  cases htracks with
  | idle | joining | queued | recovering | settled => cases hfetching
  | @fetching asker c' fetch limit hnode =>
    obtain rfl := (Graph.findNode_some hnode).2
    exact ⟨c, hc, h.ending hc hstage, .ends hnode hstage fun k w hsteps hdue =>
      fetchOn_over (s := reschedule (⟨c, s.shared⟩ : Session W) fun _ => k) asker w c' fetch hsteps hdue⟩

/-- Whoever waits for a permit may take one. -/
theorem Reachable.goesOn_of_admits (h : Reachable r passes s) (hc : c ∈ s.calls)
    (hqueued : (Session.stage ⟨c, s.shared⟩ id).isQueued = true) (hadmits : s.shared.permits.Admits (c.number, id)) :
    GoesOn r s := by
  have htracks := (h.traced c hc).tracks id
  generalize hstage : Session.stage ⟨c, s.shared⟩ id = stage at htracks hqueued
  cases htracks with
  | idle | joining | fetching | recovering | settled => cases hqueued
  | queued hnode =>
    obtain rfl := (Graph.findNode_some hnode).2
    exact ⟨c, hc, h.ending hc hstage, .fetches hnode hstage fun k w hsteps => Scheduler.pass_admits hadmits w hsteps⟩

/-- If somebody waits for a permit then somebody fetches, or may begin to. -/
theorem Reachable.goesOn_of_queued (h : Reachable r passes s) (hc : c ∈ s.calls)
    (hqueued : (Session.stage ⟨c, s.shared⟩ id).isQueued = true) : GoesOn r s := by
  have hpermitted := h.permitted
  cases hfetching : s.fetching with
  | cons p rest =>
    obtain ⟨c', hc', hmem⟩ := List.mem_flatMap.1 (show p ∈ s.fetching by rw [hfetching]; exact List.mem_cons_self)
    exact h.goesOn_of_fetching hc' ((Call.mem_fetching s.shared).1 hmem).2
  | nil =>
    -- all permits are free, or given to those who are to fetch
    have htotal := hpermitted.total h.sound
    rw [Sessions.holders, hfetching, List.append_nil] at htotal
    have hroom : s.shared.permits.room ≠ 0 := by
      have hpos : 1 ≤ r.permits := Nat.le_max_left 1 r.maxFetches
      rw [Gate.room]
      omega
    rcases hpermitted.accounts.orderly.admits h.sound.opened hroom with ⟨p, hgranted, hadmits⟩ | hadmits
    · obtain ⟨c', hc', hnumber, hstage⟩ := hpermitted.waiting p (Gate.mem_waiting.2 (.inl hgranted))
      obtain ⟨number, id'⟩ := p
      obtain rfl : c'.number = number := hnumber
      exact h.goesOn_of_admits hc' hstage hadmits
    · exact h.goesOn_of_admits hc hqueued (hadmits _)

/-- **Whoever waits for a node waits for somebody who can go on.** -/
theorem Reachable.goesOn_of_asking (h : Reachable r passes s) (hc : c ∈ s.calls) (hending : c.ending = none)
    {x : String} (hasking : Asking r.graph ⟨c, s.shared⟩ asker x) (hwaits : Session.standing ⟨c, s.shared⟩ x = .waits) :
    GoesOn r s := by
  have hs := h.coherent hc hending
  obtain ⟨rank, hrank, -⟩ := exists_ranks r.graph
  -- by induction down the graph: whatever the node waits for itself lies below it
  induction hdepth : rank x using Nat.strong_induction_on generalizing x asker with
  | _ depth ih =>
    have hbelow : ∀ {a y}, a.node = some x → Asking r.graph ⟨c, s.shared⟩ a y →
        Session.standing ⟨c, s.shared⟩ y = .waits → GoesOn r s := fun hx hy hwaits =>
      ih _ (hdepth ▸ hy.rank_lt hrank hx) hy hwaits rfl
    have htracks := (h.traced c hc).tracks x
    generalize hstage : Session.stage ⟨c, s.shared⟩ x = stage at htracks
    cases htracks with
    | idle =>
      have hknown : ∃ n, r.graph.node? x = some n := by
        cases hasking with
        | member _ hid => exact known_wanted _ _ _ (List.mem_of_getElem? hid)
        | failover hnode hfailover => exact known_failover hnode hfailover
      obtain ⟨n, hn⟩ := hknown
      obtain rfl := (Graph.findNode_some hn).2
      exact ⟨c, hc, hending, hs.starts ((h.attends c hc).tended hending) hn hstage hasking⟩
    | joining =>
      rcases hs.gathers (Session.group?_node hstage) with hgoes | ⟨place, y, hy, hwaits⟩
      · exact ⟨c, hc, hending, hgoes⟩
      · exact hbelow rfl hy hwaits
    | queued => exact h.goesOn_of_queued hc (by rw [hstage]; rfl)
    | fetching => exact h.goesOn_of_fetching hc (by rw [hstage]; rfl)
    | recovering hnode hfailover =>
      obtain rfl := (Graph.findNode_some hnode).2
      rcases hs.recovers hnode hfailover hstage with hgoes | ⟨hy, hwaits⟩
      · exact ⟨c, hc, hending, hgoes⟩
      · exact hbelow rfl hy hwaits
    | @settled o =>
      rw [Session.standing_of_settled hstage] at hwaits
      cases o <;> cases hwaits

theorem Reachable.goesOn (h : Reachable r passes s) (hc : c ∈ s.calls) (hending : c.ending = none) : GoesOn r s := by
  have hs := h.coherent hc hending
  cases hbegun : c.begun with
  | none => exact ⟨c, hc, hending, .begins hbegun⟩
  | some begun =>
    have hgroup : Session.group? ⟨c, s.shared⟩ none = some begun.1 := by
      rw [Session.group?, hbegun, Option.map_some]
    rcases hs.gathers hgroup with hgoes | ⟨place, x, hasking, hwaits⟩
    · exact ⟨c, hc, hending, hgoes⟩
    · exact h.goesOn_of_asking hc hending hasking hwaits

end

/-- The node of a call that begins to do what it is for. -/
def Event.started? (call : Nat) : Event → Option String
  | .computed call' id | .began call' id => if call' = call then some id else none
  | .ended .. | .gave .. | .erred .. | .settled .. => none

theorem Event.started?_eq_some_iff {call : Nat} {e : Event} {id : String} :
    e.started? call = some id ↔ e.starts call id = true := by
  cases e <;> simp [started?, starts]

theorem PutsDown.known {g : Graph W} {call : Nat} {fails : Bool} {e : Event} (h : PutsDown g call fails e)
    {id : String} (hstart : e.starts call id = true) : id ∈ g.nodes.map Node.id := by
  cases h with
  | ended | settled => simp [Event.starts] at hstart
  | own =>
    rw [Event.starts_own] at hstart
    cases hstart
  | @computed n hnode | @began n hnode =>
    obtain rfl : n.id = id := by simpa [Event.starts] using hstart
    exact List.mem_map_of_mem (Graph.findNode_some hnode).1

/-- Whatever starts is a node of the graph. -/
def StartsKnown (g : Graph W) (c : Call W) (sh : Shared W) : Prop :=
  ∀ e ∈ sh.log, ∀ id, e.starts c.number id = true → id ∈ g.nodes.map Node.id

theorem StartsKnown.append {g : Graph W} {s t : Session W} (h : StartsKnown g s.call s.shared)
    (hnumber : t.call.number = s.call.number) {es : List Event} (hlog : t.shared.log = es ++ s.shared.log)
    (hes : ∀ e ∈ es, ∀ id, e.starts s.call.number id = true → id ∈ g.nodes.map Node.id) :
    StartsKnown g t.call t.shared := by
  intro e he id hstart
  rw [hlog] at he
  rw [hnumber] at hstart
  exact (List.mem_append.1 he).elim (fun he => hes e he id hstart) fun he => h e he id hstart

theorem StartsKnown.kept (r : Resolver W) (passes : Call W → Nat → Prop) : Kept r passes (StartsKnown r.graph) where
  starts c sh _ hnew e he id hstart := absurd (Event.call_of_starts hstart) (hnew e he)
  turns s b t u _ hs h hmoves hcloses := by
    have ht : StartsKnown r.graph t.call t.shared := by
      refine hmoves.keeps (P := fun t => StartsKnown r.graph t.call t.shared) hs (fun _ _ _ hc hmove hk => ?_) h
      obtain ⟨es, hlog, hes⟩ := hmove.putsDown hc
      exact hk.append (by rw [hmove.call]) hlog fun e he _ => (hes e he).known
    have hdropped : ∀ {crowd : Option Nat} {v : Session W} (ending : Ending), Drops crowd t v →
        StartsKnown r.graph (finish ending v).call (finish ending v).shared := by
      intro crowd v ending hdrops
      obtain ⟨es, hlog, hes⟩ := hdrops.log
      refine ht.append (show v.call.number = _ by rw [hdrops.call]) hlog fun e he id hstart => ?_
      obtain ⟨x, rfl⟩ := hes e he
      simp [Event.starts] at hstart
    cases hcloses with
    | waits => exact ht
    | returns => exact ht
    | breaks _ _ hdrops => exact hdropped _ hdrops
    | leaves hdrops => exact hdropped _ hdrops
  elsewhere c sh sh' helse _ h := by
    obtain ⟨es, hlog, hes⟩ := helse.log
    exact StartsKnown.append (s := ⟨c, sh⟩) (t := ⟨c, sh'⟩) h rfl hlog fun e he id hstart =>
      absurd (Event.call_of_starts hstart) (hes e he)

/-- If no node starts more often than so many times, there are no more starts than that for each node. -/
theorem StartsKnown.length_le {g : Graph W} {c : Call W} {sh : Shared W} {m : Nat} (h : StartsKnown g c sh)
    (hstarts : StartsAtMost m ⟨c, sh⟩) :
    (sh.log.filterMap (Event.started? c.number)).length ≤ g.nodes.length * m := by
  have hcount : ∀ id, (sh.log.filterMap (Event.started? c.number)).count id ≤ m := fun id => by
    rw [List.count_filterMap]
    refine le_trans (le_of_eq (List.countP_congr fun e _ => ?_)) (hstarts id)
    rw [beq_iff_eq, Event.started?_eq_some_iff]
  have hsubset : sh.log.filterMap (Event.started? c.number) ⊆ g.nodes.map Node.id := by
    intro id hid
    obtain ⟨e, he, hstarted⟩ := List.mem_filterMap.1 hid
    exact h e he id (Event.started?_eq_some_iff.1 hstarted)
  generalize sh.log.filterMap (Event.started? c.number) = started at hcount hsubset
  have hdistinct : started.dedup.length ≤ g.nodes.length := by
    have hids : started.dedup ⊆ g.nodes.map Node.id := fun id hid => hsubset (List.mem_dedup.1 hid)
    exact ((List.nodup_dedup started).subperm hids).length_le.trans_eq (List.length_map _)
  calc started.length = (started.dedup.map fun id => started.count id).sum :=
        (List.sum_map_count_dedup_eq_length started).symm
    _ ≤ (started.dedup.map fun id => started.count id).length * m :=
        List.sum_le_card_nsmul _ m (List.forall_mem_map.2 fun id _ => hcount id)
    _ = started.dedup.length * m := by rw [List.length_map]
    _ ≤ g.nodes.length * m := Nat.mul_le_mul_right m hdistinct

theorem countP_lt_countP {α : Type} {l : List α} {p q : α → Bool} (h : ∀ x ∈ l, p x = true → q x = true) {x : α}
    (hx : x ∈ l) (hp : p x = false) (hq : q x = true) : l.countP p < l.countP q := by
  obtain ⟨before, after, rfl⟩ := List.append_of_mem hx
  have hbefore : before.countP p ≤ before.countP q :=
    List.countP_mono_left fun y hy => h y (List.mem_append_left _ hy)
  have hafter : after.countP p ≤ after.countP q :=
    List.countP_mono_left fun y hy => h y (List.mem_append_right _ (List.mem_cons_of_mem _ hy))
  rw [List.countP_append, List.countP_append, List.countP_cons_of_neg (by simp [hp]), List.countP_cons_of_pos hq]
  omega

/-- How many nodes have failed. -/
def Session.failures (g : Graph W) (s : Session W) : Nat := g.nodes.countP fun n => s.standing n.id = .failed

section

variable {g : Graph W} {wide : Prop} {s t : Session W} {b : Bool}

theorem Session.failures_le (g : Graph W) (s : Session W) : s.failures g ≤ g.nodes.length := List.countP_le_length

theorem Falls.fails (h : Falls g s t) : ∃ n ∈ g.nodes, s.standing n.id = .waits ∧ t.standing n.id = .failed := by
  cases h with
  | givesUp hnode _ hstage | follows hnode hstage =>
    exact ⟨_, (Graph.findNode_some hnode).1, standing_of_evaluated hstage,
      Session.standing_of_settled (Session.stage_settle _ _ _)⟩

/-- A node that fails had not been settled before. -/
theorem Move.fails (h : Move g true s t) : ∃ n ∈ g.nodes, s.standing n.id = .waits ∧ t.standing n.id = .failed := by
  cases h with
  | breaks hattempted =>
    obtain ⟨es, hstretch⟩ := hattempted.stretch
    obtain ⟨phase, hstage⟩ := hstretch.evaluated
    exact ⟨_, (Graph.findNode_some hattempted.node).1, standing_of_evaluated hstage,
      Session.standing_of_settled (Session.stage_settle _ _ _)⟩
  | falls hfalls => exact hfalls.fails

/-- A node that has failed stays so, and a move that makes one fail is another failure. -/
theorem Move.failures_le (h : Move g b s t) (hs : Coherent g wide s) :
    s.failures g + b.toNat ≤ t.failures g := by
  have hmono : ∀ n ∈ g.nodes, decide (s.standing n.id = .failed) = true → decide (t.standing n.id = .failed) = true :=
    fun n _ hfailed => by
      rw [decide_eq_true_eq] at hfailed ⊢
      exact ((h.later hs).standing (by rw [hfailed]; decide)).trans hfailed
  cases b with
  | false => exact List.countP_mono_left hmono
  | true =>
    obtain ⟨n, hn, hwaits, hfailed⟩ := h.fails
    exact countP_lt_countP hmono hn (by rw [hwaits]; decide) (decide_eq_true hfailed)

/-- **Nodes begin at most once more than nodes have failed.** What a failure breaks off may begin anew. -/
theorem Calm.fails (h : Calm (s.failures g) s) (hs : Coherent g wide s) (hmove : Move g b s t) :
    Calm (t.failures g) t := by
  have hle := hmove.failures_le hs
  cases b with
  | false => exact (h.move hs hmove).mono hle
  | true =>
    have hstarts := h.fall hmove
    exact ⟨fun id => (hstarts id).trans (hle.trans (Nat.le_succ _)), fun id _ => (hstarts id).trans hle⟩

end

theorem StartsAtMost.kept (r : Resolver W) (passes : Call W → Nat → Prop) :
    Kept r passes fun c sh => StartsAtMost (r.graph.nodes.length + 1) ⟨c, sh⟩ ∧
      (c.ending = none → Calm (Session.failures r.graph ⟨c, sh⟩) ⟨c, sh⟩) where
  starts c sh _ hnew := ⟨((Calm.of_new hnew _).starts), fun _ => .of_new hnew _⟩
  turns s b t u hending hs h hmoves hcloses := by
    have ht : Calm (t.failures r.graph) t :=
      hmoves.keeps (P := fun t => Calm (t.failures r.graph) t) hs
        (fun _ _ _ hc hmove hcalm => hcalm.fails hc hmove) (h.2 hending)
    have hstarts : StartsAtMost (r.graph.nodes.length + 1) t := fun id =>
      (ht.starts id).trans (Nat.succ_le_succ (t.failures_le r.graph))
    refine ⟨hstarts.closes hcloses, fun hopen => ?_⟩
    cases hcloses with
    | waits => exact ht
    | returns | breaks | leaves => cases hopen
  elsewhere c sh sh' helse _ h := ⟨h.1.elsewhere helse, fun hending => (h.2 hending).elsewhere helse⟩

/-- A call gets on. -/
structure GetsOn (r : Resolver W) (s : Sessions W) (c : Call W) : Prop where
  /-- Until it has ended, it or another call can go on. -/
  goesOn : c.ending = none → GoesOn r s
  /-- No way from a node to what it depends on or fails over to goes on for ever. -/
  wellFounded : WellFounded fun b a => Graph.Edge r.graph.nodes a b
  /-- Whatever a node asks for is what it depends on or fails over to. -/
  asks : ∀ p place x, Asking r.graph ⟨c, s.shared⟩ ⟨some p, place⟩ x → Graph.Edge r.graph.nodes p x
  /-- If nothing asks for more than are given turns in order, no more nodes start than there are. -/
  starts : (r.graph.roots c.requested).length ≤ Group.maxInOrder →
    (∀ n ∈ r.graph.nodes, n.dependencies.length ≤ Group.maxInOrder) →
    (s.shared.log.filterMap (Event.started? c.number)).length ≤ r.graph.nodes.length

/--
**Calls never come to a standstill.** However few permits there are and however many calls, as long as one of them has
not ended there is one that can go on.
-/
theorem Reachable.getsOn {r : Resolver W} {passes : Call W → Nat → Prop} {s : Sessions W} {c : Call W}
    (hs : Reachable r passes s) (hc : c ∈ s.calls) : GetsOn r s c := by
  obtain ⟨rank, hrank, -⟩ := exists_ranks r.graph
  have hknown := (hs.kept (StartsKnown.kept r passes)).2 c hc
  refine ⟨hs.goesOn hc, ?_, fun p place x hasking => ?_, fun hroots hnodes => ?_⟩
  · exact Subrelation.wf (fun {b a} hab => hrank a b hab) (InvImage.wf rank Nat.lt_wfRel.wf)
  · cases hasking with
    | member _ hid =>
      have hmem := List.mem_of_getElem? hid
      rw [wanted] at hmem
      cases hn : r.graph.node? p with
      | none =>
        rw [hn] at hmem
        cases hmem
      | some n =>
        rw [hn] at hmem
        exact edge_dependency hn hmem
    | failover hnode hfailover => exact edge_failover hnode hfailover
  · exact (hknown.length_le ((hs.evaluatesOnce hc).once hroots hnodes)).trans_eq (Nat.mul_one _)

/-- The call that waits for the only permit gets on. -/
theorem Contended.getsOn_of_waiting : ∃ c ∈ waiting.calls, c.number = 1 ∧ c.ending = none ∧
    (Session.stage ⟨c, waiting.shared⟩ "directory").isQueued = true ∧ GetsOn resolver waiting c := by
  have hmem : waiting.calls[1] ∈ waiting.calls := List.getElem_mem _
  exact ⟨_, hmem, rfl, rfl, by decide +kernel, (reachable_waiting fun _ _ => True).getsOn hmem⟩

end Resolver

end AttributeRelease
