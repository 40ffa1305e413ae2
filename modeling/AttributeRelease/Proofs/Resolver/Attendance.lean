import AttributeRelease.Proofs.Resolver.Runs

/-!
A node is evaluated for somebody who still asks for it, and so does everybody who waits before its gate. Breaking off
goes down the graph on the same ways as asking did, so it comes to every node that was asked for, and whoever is
broken off leaves nothing behind that is evaluated for him, and no place in a line. In particular nothing of a call
is evaluated any longer once the call has ended.
-/

namespace AttributeRelease

namespace Resolver

variable {W : Type}

section

variable {g : Graph W} {wide : Prop} {rank : String → Nat} {s s' t u : Session W} {a : Asker} {x : String}

namespace Asking

theorem congr (h : Asking g s a x) (hwanted : wanted g s'.call = wanted g s.call)
    (hgroup : s'.group? a.node = s.group? a.node) (hstage : ∀ p, a.node = some p → s'.stage p = s.stage p)
    (hregister : ∀ number, s.Owns a.node number →
      s'.shared.scheduler.register number = s.shared.scheduler.register number) : Asking g s' a x := by
  cases h with
  | member hown hid halive =>
    refine .member (hgroup.trans hown) (by rw [hwanted]; exact hid) fun number hnumber => ?_
    rw [hregister number ⟨_, by rw [hown, ← hnumber]⟩]
    exact halive number hnumber
  | failover hnode hfailover hrecovering =>
    exact .failover hnode hfailover ((hstage _ rfl).trans hrecovering)

/-- A node that asks for another one waits for its dependencies or for its failover. -/
theorem stage (h : Asking g s a x) {p : String} (hp : a.node = some p) : ∃ asker phase,
    s.stage p = .evaluated asker phase ∧ ((∃ group, phase = .joining group) ∨ ∃ e, phase = .recovering e) := by
  cases h with
  | member hgroup =>
    cases hp
    obtain ⟨asker, hstage⟩ := Session.group?_node_eq_some hgroup
    exact ⟨asker, _, hstage, .inl ⟨_, rfl⟩⟩
  | failover _ _ hstage =>
    cases hp
    exact ⟨_, _, hstage, .inr ⟨_, rfl⟩⟩

/-- Whoever asks for a node lies above it. -/
theorem rank_lt (h : Asking g s a x) (hrank : Ranks g rank) {p : String} (hp : a.node = some p) :
    rank x < rank p := by
  cases h with
  | @member holder group place x hgroup hid =>
    cases hp
    rw [wanted] at hid
    cases hn : g.node? p with
    | none =>
      rw [hn] at hid
      cases hid
    | some n =>
      rw [hn] at hid
      exact hrank.dependency hn (List.mem_of_getElem? hid)
  | failover hnode hfailover =>
    cases hp
    exact hrank.failover hnode hfailover

end Asking

theorem standing_of_evaluated {phase : Phase W} (h : s.stage x = .evaluated a phase) : s.standing x = .waits := by
  rw [Session.standing, Session.outcome?_eq, h]
  rfl

/-- A node is evaluated for an asker, or has not been settled and keeps a place before its gate for it. -/
def Session.Engaged (s : Session W) (x : String) (a : Asker) : Prop :=
  (∃ phase, s.stage x = .evaluated a phase) ∨ s.standing x = .waits ∧ a ∈ (s.cell x).gate.waiting

namespace Session.Engaged

theorem standing (h : s.Engaged x a) : s.standing x = .waits := by
  rcases h with ⟨phase, hstage⟩ | ⟨hwaits, -⟩
  · exact standing_of_evaluated hstage
  · exact hwaits

theorem of_cell (h : t.Engaged x a) (hcell : t.cell x = s.cell x) : s.Engaged x a := by
  unfold Engaged Session.standing Session.outcome? Session.stage at h ⊢
  rwa [hcell] at h

end Session.Engaged

/-- Whoever a node is evaluated or keeps a place for asks for it. -/
def Tended (g : Graph W) (s : Session W) : Prop := ∀ x a, s.Engaged x a → Asking g s a x

/-- Nothing is evaluated for a node or for the call itself, and no place is kept for it. -/
def Deserted (holder : Option String) (s : Session W) : Prop := ∀ x a, s.Engaged x a → a.node ≠ holder

/-- A call that nothing is evaluated for evaluates nothing. -/
theorem Tended.nobody (h : Tended g s) (hroots : Deserted none s) (x : String) (a : Asker) : ¬ s.Engaged x a := by
  obtain ⟨rank, hrank, hlt⟩ := exists_ranks g
  -- by induction on how far the node lies below the top
  induction hdepth : levels g - rank x using Nat.strong_induction_on generalizing x a with
  | _ depth ih =>
    intro hengaged
    have hasking := h x a hengaged
    cases hnode : a.node with
    | none => exact hroots x a hengaged hnode
    | some p =>
      have hp := hasking.rank_lt hrank hnode
      obtain ⟨asker, phase, hpstage, -⟩ := hasking.stage hnode
      exact ih (levels g - rank p) (by have := hlt p; omega) p asker rfl (.inl ⟨phase, hpstage⟩)

/-- Nothing is evaluated for those whose evaluation has changed. -/
def Clears (s t : Session W) : Prop := ∀ p, t.stage p ≠ s.stage p → Deserted (some p) t

theorem Drops.evaluated {crowd : Option Nat} (h : Drops crowd s t) {phase : Phase W}
    (hx : t.stage x = .evaluated a phase) : s.stage x = .evaluated a phase := by
  rcases h.stage x with hsame | ⟨-, hidle⟩
  · exact hsame.symm.trans hx
  · rw [hidle] at hx
    cases hx

theorem Drops.engaged {crowd : Option Nat} (h : Drops crowd s t) (hx : t.Engaged x a) : s.Engaged x a := by
  rcases hx with ⟨phase, hstage⟩ | ⟨hwaits, hmem⟩
  · exact .inl ⟨phase, h.evaluated hstage⟩
  · refine .inr ⟨?_, h.waiting x a hmem⟩
    rcases h.stage x with hsame | ⟨⟨_, _, hstage⟩, -⟩
    · rw [← Session.standing_eq_standing hsame, hwaits]
    · exact standing_of_evaluated hstage

theorem Drops.deserted {crowd : Option Nat} (h : Drops crowd s t) {holder : Option String}
    (hs : Deserted holder s) : Deserted holder t := fun x a hx => hs x a (h.engaged hx)

theorem Clears.of_stage (h : ∀ x, t.stage x = s.stage x) : Clears s t := fun p hp => absurd (h p) hp

theorem Clears.trans {crowd : Option Nat} (h : Clears s t) (h' : Clears t u) (hdrops : Drops crowd t u) :
    Clears s u := by
  intro p hp
  by_cases hsame : u.stage p = t.stage p
  · exact hdrops.deserted (h p fun e => hp (hsame.trans e))
  · exact h' p hsame

/-- Whoever keeps on asking does so whatever is broken off beside him. -/
theorem Asking.drops (h : Asking g s a x) {crowd : Option Nat} (hdrops : Drops crowd s t)
    (hown : ∀ holder holder' number, s.Owns holder number → s.Owns holder' number → holder = holder')
    (hcrowd : ∀ number, crowd = some number → ¬ s.Owns a.node number)
    (hkept : ∀ p, a.node = some p → t.stage p = s.stage p) : Asking g t a x := by
  have hgroup : t.group? a.node = s.group? a.node := Session.group?_congr (by rw [hdrops.call]) hkept
  refine h.congr (wanted_congr g (by rw [hdrops.call])) hgroup hkept fun number howns => ?_
  refine hdrops.register number (fun e => hcrowd number e.symm howns) fun holder howns' => ?_
  obtain rfl := hown holder a.node number howns' howns
  obtain ⟨size, hg⟩ := howns
  exact ⟨size, hgroup.trans hg⟩

/-- What breaking off below a rank relies on: the nodes below it are evaluated for somebody who asks for them. -/
structure Attended (g : Graph W) (rank : String → Nat) (bound : Nat) (s : Session W) : Prop where
  fits : ∀ x, (s.cell x).Fits
  size : ∀ holder group, s.group? holder = some group → group.size = (wanted g s.call holder).length
  own : ∀ holder holder' number, s.Owns holder number → s.Owns holder' number → holder = holder'
  asked : ∀ x a p, s.Engaged x a → a.node = some p → rank p < bound → Asking g s a x

namespace Attended

variable {bound bound' : Nat}

theorem weaken (h : Attended g rank bound s) (hle : bound' ≤ bound) : Attended g rank bound' s :=
  { h with asked := fun x a p hx hp hlt => h.asked x a p hx hp (Nat.lt_of_lt_of_le hlt hle) }

theorem drops (h : Attended g rank bound s) {crowd : Option Nat} (hdrops : Drops crowd s t) (hclears : Clears s t)
    (hcrowd : ∀ p number, rank p < bound → crowd = some number → ¬ s.Owns (some p) number) :
    Attended g rank bound t where
  fits x := hdrops.fits x (h.fits x)
  size holder group hg := by
    have hwanted : wanted g t.call = wanted g s.call := wanted_congr g (by rw [hdrops.call])
    rw [hwanted]
    refine h.size holder group ?_
    cases holder with
    | none => rwa [Session.group?, hdrops.call] at hg
    | some p =>
      obtain ⟨asker, hstage⟩ := Session.group?_node_eq_some hg
      exact Session.group?_node (hdrops.evaluated hstage)
  own holder holder' number howns howns' :=
    h.own holder holder' number (hdrops.owns_of_owns howns) (hdrops.owns_of_owns howns')
  asked x a p hx hp hlt := by
    have hkept : t.stage p = s.stage p := by
      by_contra hne
      exact hclears p hne x a hx hp
    refine (h.asked x a p (hdrops.engaged hx) hp hlt).drops hdrops h.own (fun number hnumber => ?_) ?_
    · rw [hp]
      exact hcrowd p number hlt hnumber
    · intro p' hp'
      obtain rfl := Option.some.inj (hp.symm.trans hp')
      exact hkept

theorem of_coherent (hs : Coherent g wide s) (h : Tended g s) (rank : String → Nat) (bound : Nat) :
    Attended g rank bound s :=
  ⟨hs.fits, hs.size, hs.own, fun x a _ hx _ _ => h x a hx⟩

end Attended

/-- A way to stop asking that, below a rank, leaves nothing behind that was evaluated or kept for the asker. -/
def DismissesBelow (g : Graph W) (rank : String → Nat) (bound : Nat) (dismiss : Dismiss W) : Prop :=
  ∀ asker id s, rank id < bound → (∃ n, g.node? id = some n) → Attended g rank (rank id + 1) s →
    DropsBelow rank (rank id + 1) none s (dismiss asker id s) ∧ Clears s (dismiss asker id s) ∧
      ¬ (dismiss asker id s).Engaged id asker

section Disband

variable {bound : Nat} {dismiss : Dismiss W} {holder : Option String} {ids : List String} {crowd : Option Nat}

/-- What is left when the members at some places have been dismissed. -/
structure Dismissed (g : Graph W) (rank : String → Nat) (bound : Nat) (crowd : Option Nat) (holder : Option String)
    (ids : List String) (places : List Nat) (s t : Session W) : Prop where
  drops : Drops crowd s t
  clears : Clears s t
  attended : Attended g rank bound t
  gone : ∀ place ∈ places, ∀ x, ids[place]? = some x → ¬ t.Engaged x ⟨holder, place⟩

theorem Dismissed.foldl {f : Session W → Nat → Session W}
    (hf : ∀ s place, Attended g rank bound s →
      (∀ p number, rank p < bound → crowd = some number → ¬ s.Owns (some p) number) →
      Dismissed g rank bound crowd holder ids [place] s (f s place)) (places : List Nat)
    (hs : Attended g rank bound s)
    (hcrowd : ∀ p number, rank p < bound → crowd = some number → ¬ s.Owns (some p) number) :
    Dismissed g rank bound crowd holder ids places s (places.foldl f s) := by
  induction places generalizing s with
  | nil => exact ⟨.refl crowd s, .of_stage fun _ => rfl, hs, nofun⟩
  | cons place rest ih =>
    have hfirst := hf s place hs hcrowd
    have hrest := ih hfirst.attended fun p number hlt hnumber howns =>
      hcrowd p number hlt hnumber (hfirst.drops.owns_of_owns howns)
    refine ⟨hfirst.drops.trans hrest.drops, hfirst.clears.trans hrest.clears hrest.drops, hrest.attended, ?_⟩
    intro place' hplace' x hid hx
    rcases List.mem_cons.1 hplace' with rfl | hmem
    · exact hfirst.gone place' (List.mem_singleton_self _) x hid (hrest.drops.engaged hx)
    · exact hrest.gone place' hmem x hid hx

theorem dismissAt_dismissed (hdismiss : DismissesBelow g rank bound dismiss)
    (hids : ∀ id ∈ ids, rank id < bound ∧ ∃ n, g.node? id = some n) (holder : Option String) (place : Nat)
    (hs : Attended g rank bound s) :
    Dismissed g rank bound none holder ids [place] s (dismissAt dismiss holder ids place s) := by
  unfold dismissAt
  cases hid : ids[place]? with
  | none =>
    refine ⟨.refl none s, .of_stage fun _ => rfl, hs, fun place' hplace' x hx => ?_⟩
    rw [List.mem_singleton.1 hplace', hid] at hx
    cases hx
  | some id =>
    obtain ⟨hlt, hknown⟩ := hids id (List.mem_of_getElem? hid)
    obtain ⟨hdrops, hclears, hgone⟩ := hdismiss ⟨holder, place⟩ id s hlt hknown (hs.weaken hlt)
    refine ⟨hdrops.toDrops, hclears, hs.drops hdrops.toDrops hclears nofun, fun place' hplace' x hx => ?_⟩
    obtain rfl := List.mem_singleton.1 hplace'
    rw [hid] at hx
    cases hx
    exact hgone

/-- In a crowd the member is struck off first. -/
theorem dismissAt_struck (hdismiss : DismissesBelow g rank bound dismiss)
    (hids : ∀ id ∈ ids, rank id < bound ∧ ∃ n, g.node? id = some n) (holder : Option String) (number place : Nat)
    (hs : Attended g rank bound s)
    (hcrowd : ∀ p n, rank p < bound → some number = some n → ¬ s.Owns (some p) n) :
    Dismissed g rank bound (some number) holder ids [place] s (dismissAt dismiss holder ids place <|
      reschedule s fun k => k.alterCrowd number fun c => { c with alive := c.alive.erase place }) := by
  have hstrike : DropsBelow rank bound (some number) s
      (reschedule s (·.alterCrowd number fun c => { c with alive := c.alive.erase place })) :=
    .of_crowd (·.alterCrowd number _) (fun _ => rfl) (fun _ => rfl)
      (fun k n hn => k.register_alterCrowd_of_ne hn _) s
  have hsame := Clears.of_stage (s := s)
    (t := reschedule s (·.alterCrowd number fun c => { c with alive := c.alive.erase place })) fun _ => rfl
  have hdismissed := dismissAt_dismissed hdismiss hids holder place (hs.drops hstrike.toDrops hsame hcrowd)
  exact ⟨hstrike.toDrops.trans (hdismissed.drops.weaken _), hsame.trans hdismissed.clears hdismissed.drops,
    hdismissed.attended, hdismissed.gone⟩

/-- A group that is broken off leaves nothing behind that was evaluated or kept for its members. -/
theorem disband_clears (hdismiss : DismissesBelow g rank bound dismiss)
    (hids : ∀ id ∈ ids, rank id < bound ∧ ∃ n, g.node? id = some n) (hholder : ∀ p, holder = some p → bound ≤ rank p)
    {group : Group} (hgroup : s.group? holder = some group) (hwanted : wanted g s.call holder = ids)
    (hmembers : ∀ x a, s.Engaged x a → a.node = holder → Asking g s a x)
    (hs : Attended g rank bound s) :
    Drops group.crowd s (group.disband (dismissAt dismiss holder ids) s) ∧
      Clears s (group.disband (dismissAt dismiss holder ids) s) ∧
      Deserted holder (group.disband (dismissAt dismiss holder ids) s) := by
  have hsize := hs.size holder group hgroup
  rw [hwanted] at hsize
  -- what is evaluated or kept for a member is what is wanted at its place, and the member is alive
  have hplaces : ∀ x place, s.Engaged x ⟨holder, place⟩ → ids[place]? = some x ∧
      ∀ number, group.crowd = some number →
        ∃ register, s.shared.scheduler.register number = some register ∧ (register place).1 = true := by
    intro x place hx
    cases hmembers x _ hx rfl with
    | member hgroup' hid halive =>
      obtain rfl := Option.some.inj (hgroup.symm.trans hgroup')
      exact ⟨hwanted ▸ hid, halive⟩
    | failover _ _ hrecovering =>
      obtain ⟨asker, hjoining⟩ := Session.group?_node_eq_some hgroup
      rw [hrecovering] at hjoining
      cases hjoining
  obtain ⟨size, crowd⟩ := group
  cases crowd with
  | none =>
    have hdismissed := Dismissed.foldl
      (fun s place hs _ => dismissAt_dismissed hdismiss hids holder place hs) (List.range size) hs nofun
    refine ⟨hdismissed.drops, hdismissed.clears, ?_⟩
    rintro x ⟨_, place⟩ hx rfl
    obtain ⟨hid, -⟩ := hplaces x place (hdismissed.drops.engaged hx)
    obtain ⟨hlt, -⟩ := List.getElem?_eq_some_iff.1 hid
    dsimp only at hsize
    exact hdismissed.gone place (List.mem_range.2 (by omega)) x hid hx
  | some number =>
    -- the crowd is its holder's own, so nobody below the bound has it
    have hcrowd : ∀ p n, rank p < bound → some number = some n → ¬ s.Owns (some p) n := by
      rintro p n hlt hn howns
      cases hn
      have hle := hholder p (hs.own holder (some p) number ⟨size, hgroup⟩ howns)
      omega
    have hdismissed := Dismissed.foldl (fun s place => dismissAt_struck hdismiss hids holder number place)
      ((((scheduler s).crowd? number).elim [] Crowd.alive).reverse) hs hcrowd
    have hclose : ∀ u : Session W, DropsBelow rank bound (some number) u (reschedule u (·.closeCrowd number)) :=
      .of_crowd (·.closeCrowd number) (fun _ => rfl) (fun _ => rfl) fun k n hn => k.register_closeCrowd_of_ne hn
    have hdrops := hdismissed.drops.trans (hclose _).toDrops
    refine ⟨hdrops, hdismissed.clears.trans (.of_stage fun _ => rfl) (hclose _).toDrops, ?_⟩
    rintro x ⟨_, place⟩ hx rfl
    obtain ⟨hid, halive⟩ := hplaces x place (hdrops.engaged hx)
    obtain ⟨register, hregister, hplace⟩ := halive number rfl
    obtain ⟨c, hc, rfl⟩ := Option.map_eq_some_iff.1 hregister
    have hmem : place ∈ (((scheduler s).crowd? number).elim [] Crowd.alive).reverse := by
      rw [show (scheduler s).crowd? number = some c from hc]
      simpa [Crowd.register] using hplace
    exact hdismissed.gone place hmem x hid (hx.of_cell rfl)

end Disband

theorem DismissesBelow.weaken {bound bound' : Nat} {dismiss : Dismiss W} (h : DismissesBelow g rank bound dismiss)
    (hle : bound' ≤ bound) : DismissesBelow g rank bound' dismiss :=
  fun asker id s hlt => h asker id s (Nat.lt_of_lt_of_le hlt hle)

/-- A node that has failed asks for its failover only. -/
theorem Asking.of_recovering (h : Asking g s a x) {p : String} (hp : a.node = some p) {asker : Asker}
    {e : ResolutionError} (hstage : s.stage p = .evaluated asker (.recovering e)) :
    ∃ n, g.node? p = some n ∧ n.failover = some x ∧ a.place = n.dependencies.length := by
  cases h with
  | member hgroup =>
    cases hp
    obtain ⟨asker', hjoining⟩ := Session.group?_node_eq_some hgroup
    rw [hstage] at hjoining
    cases hjoining
  | failover hnode hfailover =>
    cases hp
    exact ⟨_, hnode, hfailover, rfl⟩

theorem engaged_leaveCell {id : String} {asker : Asker} {phase : Phase W} (hstage : t.stage id = .evaluated asker phase)
    (h : (t.leaveCell id).Engaged x a) : t.Engaged x a := by
  by_cases hxid : x = id
  · subst hxid
    rcases h with ⟨phase', hx⟩ | ⟨-, hmem⟩
    · rw [t.stage_leaveCell] at hx
      cases hx
    · rw [t.cell_leaveCell, Gate.mem_waiting_leave] at hmem
      exact .inr ⟨standing_of_evaluated hstage, hmem⟩
  · exact h.of_cell ((t.alters_leaveCell id).cell x hxid)

/-- What a node asked for is evaluated for it no longer when its evaluation has been taken back. -/
theorem abandon_clears (hrank : Ranks g rank) {dismiss : Dismiss W} {n : Node W} (hn : g.node? n.id = some n)
    (hdismiss : DismissesBelow g rank (rank n.id) dismiss) {asker : Asker} {phase : Phase W}
    (hstage : s.stage n.id = .evaluated asker phase) (hs : Attended g rank (rank n.id + 1) s) :
    Clears s (abandon dismiss n phase s) ∧ Deserted (some n.id) (abandon dismiss n phase s) := by
  have hasking : ∀ x a, s.Engaged x a → a.node = some n.id → Asking g s a x :=
    fun x a hx hnode => hs.asked x a n.id hx hnode (Nat.lt_succ_self _)
  have hnobody : ((∀ group, phase ≠ .joining group) ∧ ∀ e, phase ≠ .recovering e) → Deserted (some n.id) s := by
    rintro ⟨hjoining, hrecovering⟩ x a hx hnode
    obtain ⟨asker', phase', hphase, hkind⟩ := (hasking x a hx hnode).stage hnode
    rw [hstage] at hphase
    cases hphase
    rcases hkind with ⟨group, h⟩ | ⟨e, h⟩
    · exact hjoining group h
    · exact hrecovering e h
  cases phase with
  | joining group =>
    exact (disband_clears hdismiss (fun d hd => ⟨hrank.dependency hn hd, known_dependency hn hd⟩)
      (fun p hp => Nat.le_of_eq (congrArg rank (Option.some.inj hp))) (Session.group?_node hstage)
      (wanted_node s.call hn) hasking (hs.weaken (Nat.le_succ _))).2
  | queued =>
    have hspares := s.spares_renouncePermit n.id
    refine ⟨.of_stage (Session.stage_of_spares hspares), fun x a hx => ?_⟩
    exact hnobody ⟨nofun, nofun⟩ x a (hx.of_cell (hspares.cell x))
  | fetching fetch limit =>
    have hdrop := Session.spares_reschedule s (Strand.quiet_drop (s.party n.id) fetch s.shared.scheduler)
    have hspares := hdrop.trans (Session.spares_endFetch _ n.id limit)
    refine ⟨.of_stage (Session.stage_of_spares hspares), fun x a hx => ?_⟩
    exact hnobody ⟨nofun, nofun⟩ x a (hx.of_cell (hspares.cell x))
  | recovering e =>
    have honly : ∀ x a, s.Engaged x a → a.node = some n.id →
        n.failover = some x ∧ a.place = n.dependencies.length := by
      intro x a hx hnode
      obtain ⟨m, hm, hfailover, hplace⟩ := (hasking x a hx hnode).of_recovering hnode hstage
      obtain rfl := Option.some.inj (hn.symm.trans hm)
      exact ⟨hfailover, hplace⟩
    unfold abandon
    cases hf : n.failover with
    | none =>
      refine ⟨.of_stage fun _ => rfl, fun x a hx hnode => ?_⟩
      rw [(honly x a hx hnode).1] at hf
      cases hf
    | some failover =>
      have hlt := hrank.failover hn hf
      obtain ⟨hdrops, hclears, hgone⟩ := hdismiss ⟨some n.id, n.dependencies.length⟩ failover s hlt
        (known_failover hn hf) (hs.weaken (by omega))
      refine ⟨hclears, ?_⟩
      rintro x ⟨holder, place⟩ hx rfl
      obtain ⟨hfailover, rfl⟩ := honly x _ (hdrops.toDrops.engaged hx) rfl
      obtain rfl := Option.some.inj (hf.symm.trans hfailover)
      exact hgone hx

/-- **Whoever stops asking for a node leaves nothing behind that is evaluated or kept for it.** -/
theorem dismiss_clears (hrank : Ranks g rank) (levels : Nat) : DismissesBelow g rank levels (dismiss g levels) := by
  induction levels with
  | zero => exact fun _ _ _ hlt => absurd hlt (Nat.not_lt_zero _)
  | succ levels ih =>
    intro asker id s hlt ⟨n, hn⟩ hs
    refine ⟨dismiss_drops hrank (levels + 1) asker id s, ?_⟩
    obtain rfl := (Graph.findNode_some hn).2
    rw [dismiss]
    split
    · next hknows =>
      refine ⟨.of_stage (s.stage_renounceCell n.id asker), ?_⟩
      rintro (⟨phase, hx⟩ | ⟨-, hmem⟩)
      · rw [s.stage_renounceCell] at hx
        exact ((hs.fits n.id).evaluated hx).2.2.2 (Gate.knows_iff.1 hknows)
      · rw [s.cell_renounceCell] at hmem
        exact ((Gate.mem_waiting_withdraw (hs.fits n.id).1.nodup asker).1 hmem).1 rfl
    · next hknows =>
      have hnew : asker ∉ (s.cell n.id).gate.waiting := fun hmem => hknows (Gate.knows_iff.2 hmem)
      rw [hn]
      cases hstage : (s.cell n.id).stage with
      | idle | settled o =>
        refine ⟨.of_stage fun _ => rfl, ?_⟩
        rintro (⟨phase, hx⟩ | ⟨-, hmem⟩)
        · rw [Session.stage, hstage] at hx
          cases hx
        · exact hnew hmem
      | evaluated first phase =>
        dsimp only
        by_cases hfirst : first = asker
        · rw [if_pos hfirst]
          obtain ⟨hclears, hdeserted⟩ := abandon_clears hrank hn (ih.weaken (Nat.le_of_lt_succ hlt)) hstage hs
          have hdrops := abandon_drops hrank (dismiss_drops hrank levels) hn phase s
          generalize abandon (dismiss g levels) n phase s = t at hclears hdeserted hdrops
          have hkept : t.stage n.id = .evaluated first phase := (hdrops.above n.id (Nat.le_refl _)).trans hstage
          have hleave : ∀ x a, (t.leaveCell n.id).Engaged x a → t.Engaged x a := fun x a => engaged_leaveCell hkept
          refine ⟨fun p hp x a hx => ?_, fun hx => ?_⟩
          · by_cases hpid : p = n.id
            · exact hpid ▸ hdeserted x a (hleave x a hx)
            · rw [Session.stage_of_alters (t.alters_leaveCell n.id) hpid] at hp
              exact hclears p hp x a (hleave x a hx)
          · rcases hx with ⟨phase', hx⟩ | ⟨-, hmem⟩
            · rw [t.stage_leaveCell] at hx
              cases hx
            · rw [t.cell_leaveCell, Gate.mem_waiting_leave] at hmem
              exact hnew (hdrops.waiting n.id asker hmem)
        · rw [if_neg hfirst]
          refine ⟨.of_stage fun _ => rfl, ?_⟩
          rintro (⟨phase', hx⟩ | ⟨-, hmem⟩)
          · rw [Session.stage, hstage] at hx
            cases hx
            exact hfirst rfl
          · exact hnew hmem

/-! ### Moves -/

/-- A node that has all that it depends on asks for nothing, unless it has failed. -/
theorem Tended.deserted_of_supplied (h : Tended g s) {asker : Asker} {phase : Phase W}
    (hstage : s.stage x = .evaluated asker phase) (hphase : ∀ e, phase ≠ .recovering e)
    (hsupplied : Supplied g s x) : Deserted (some x) s := by
  intro y a hy hnode
  cases h y a hy with
  | member _ hid =>
    cases hnode
    have hended := hsupplied y (List.mem_of_getElem? hid)
    rw [hy.standing] at hended
    cases hended
  | failover _ _ hrecovering =>
    cases hnode
    rw [hstage] at hrecovering
    cases hrecovering
    exact hphase _ rfl

/-- A node asks for nothing any more when its failover is settled. -/
theorem Tended.deserted_of_failover (h : Tended g s) {n : Node W} {asker : Asker} {e : ResolutionError}
    {failover : String} (hn : g.node? n.id = some n) (hfailover : n.failover = some failover)
    (hstage : s.stage n.id = .evaluated asker (.recovering e)) (hsettled : s.standing failover ≠ .waits) :
    Deserted (some n.id) s := by
  intro y a hy hnode
  obtain ⟨m, hm, hy', -⟩ := (h y a hy).of_recovering hnode hstage
  obtain rfl := Option.some.inj (hn.symm.trans hm)
  obtain rfl := Option.some.inj (hfailover.symm.trans hy')
  exact hsettled hy.standing

theorem Stretch.deserted {wide : Prop} {es : List Event} (h : Stretch g a x es s t) (hs : Coherent g wide s)
    (htended : Tended g s) : Deserted (some x) s := by
  cases h with
  | @early _ _ phase _ hstage hearly hsupplied =>
    refine htended.deserted_of_supplied hstage (fun e he => ?_) hsupplied
    rw [he] at hearly
    cases hearly
  | late hstage => exact htended.deserted_of_supplied hstage nofun (hs.supplied _ _ _ hstage rfl)

namespace Tended

/-- The turn of a node that asks for nothing any more. -/
theorem turns (h : Tended g s) {id : String} {es : List Event} (halters : Alters id es s t)
    (hdeserted : Deserted (some id) s) (hasker : ∀ a, t.Engaged id a → s.Engaged id a) : Tended g t := by
  intro x a hx
  have hx' : s.Engaged x a := by
    by_cases hxid : x = id
    · exact hxid ▸ hasker a (hxid ▸ hx)
    · exact hx.of_cell (halters.cell x hxid)
  have hkept : ∀ p, a.node = some p → t.stage p = s.stage p := by
    intro p hp
    refine Session.stage_of_alters halters fun hpid => ?_
    exact hdeserted x a hx' (hpid ▸ hp)
  exact (h x a hx').congr (wanted_congr g (by rw [halters.call]))
    (Session.group?_congr (by rw [halters.call]) hkept) hkept fun number _ => halters.quiet.register number

theorem settle (h : Tended g s) {es : List Event} (hspares : Spares es s t) {id : String}
    (hdeserted : Deserted (some id) s) (o : Outcome) : Tended g (t.settle id o) := by
  refine h.turns ((hspares.alters id).trans (t.alters_settle id o)) hdeserted fun a hx => ?_
  have hwaits := hx.standing
  rw [Session.standing_of_settled (t.stage_settle id o)] at hwaits
  cases o <;> cases hwaits

theorem rephase (h : Tended g s) {es : List Event} (hspares : Spares es s t) {id : String} {asker : Asker}
    (hstage : ∃ phase, s.stage id = .evaluated asker phase) (hdeserted : Deserted (some id) s) (phase : Phase W) :
    Tended g (t.setPhase id asker phase) := by
  refine h.turns ((hspares.alters id).trans (t.alters_setPhase id asker phase)) hdeserted fun a hx => ?_
  obtain ⟨phase', hstage⟩ := hstage
  rcases hx with ⟨phase'', hx⟩ | ⟨-, hmem⟩
  · rw [t.stage_setPhase] at hx
    cases hx
    exact .inl ⟨phase', hstage⟩
  · rw [t.cell_setPhase, hspares.cell] at hmem
    exact .inr ⟨standing_of_evaluated hstage, hmem⟩

end Tended

/-- What is asked for side by side is known, and lies below whoever asks for it. -/
theorem exists_bound (hrank : Ranks g rank) (hlt : ∀ id, rank id < levels g) (c : Call W) (holder : Option String) :
    ∃ bound ≤ levels g, (∀ id ∈ wanted g c holder, rank id < bound ∧ ∃ n, g.node? id = some n) ∧
      ∀ p, holder = some p → bound ≤ rank p := by
  cases holder with
  | none =>
    refine ⟨levels g, Nat.le_refl _, fun id hid => ?_, nofun⟩
    exact ⟨hlt id, Graph.exists_node (Graph.roots_subset g _ hid)⟩
  | some p =>
    have hself : ∀ p', some p = some p' → rank p ≤ rank p' := fun p' hp =>
      Nat.le_of_eq (congrArg rank (Option.some.inj hp))
    refine ⟨rank p, Nat.le_of_lt (hlt p), fun id hid => ?_, hself⟩
    cases hn : g.node? p with
    | none =>
      rw [wanted, hn] at hid
      cases hid
    | some n =>
      obtain rfl := (Graph.findNode_some hn).2
      rw [wanted_node c hn] at hid
      exact ⟨hrank.dependency hn hid, known_dependency hn hid⟩

/-- A group that is broken off leaves everybody else asking. -/
theorem Tended.disband {wide : Prop} (h : Tended g s) (hs : Coherent g wide s) {holder : Option String}
    {group : Group} (hgroup : s.group? holder = some group)
    (ht : t = group.disband (dismissAt (dismiss g (levels g)) holder (wanted g s.call holder)) s) :
    Tended g t ∧ Deserted holder t := by
  obtain ⟨rank, hrank, hlt⟩ := exists_ranks g
  obtain ⟨bound, hle, hids, hholder⟩ := exists_bound hrank hlt s.call holder
  obtain ⟨hdrops, hclears, hdeserted⟩ := disband_clears ((dismiss_clears hrank (levels g)).weaken hle) hids hholder
    hgroup rfl (fun x a hx _ => h x a hx) (.of_coherent hs h rank bound)
  rw [← ht] at hdrops hclears hdeserted
  refine ⟨fun x a hx => ?_, hdeserted⟩
  refine (h x a (hdrops.engaged hx)).drops hdrops hs.own (fun number hnumber howns => ?_) fun p hp => ?_
  · -- the only crowd that goes is the holder's, for whom nothing is evaluated any longer
    refine hdeserted x a hx (hs.own a.node holder number howns ⟨group.size, ?_⟩)
    rw [hgroup, ← hnumber]
  · by_contra hne
    exact hclears p hne x a hx hp

/-- **After every move whatever is evaluated or kept for somebody is still asked for.** -/
theorem Tended.move {wide : Prop} (h : Tended g s) (hs : Coherent g wide s) {b : Bool} (hmove : Move g b s t) :
    Tended g t := by
  cases hmove with
  | rests hcall hbegun hstage hfits hquiet _ _ hwaiting =>
    intro x a hx
    have hasking : Asking g s a x := by
      rcases hx with ⟨phase, hx⟩ | ⟨hwaits, hmem⟩
      · exact h x a (.inl ⟨phase, (hstage x).symm.trans hx⟩)
      · rcases hwaiting x a hmem with hold | hnew
        · exact h x a (.inr ⟨(Session.standing_eq_standing (hstage x)).symm.trans hwaits, hold⟩)
        · exact hnew
    exact hasking.congr (wanted_congr g (by rw [hcall])) (Session.group?_congr hbegun fun p _ => hstage p)
      (fun p _ => hstage p) fun number _ => hquiet.register number
  | @notes _ k holder number howns _ _ hothers hagrees hforgotten =>
    intro x a hx
    have hx : s.Engaged x a := hx.of_cell rfl
    have hwaits := hx.standing
    cases h x a hx with
    | failover hnode hfailover hrecovering => exact .failover hnode hfailover hrecovering
    | @member holder' group place _ hgroup hid halive =>
      refine .member hgroup hid fun number' hnumber' => ?_
      obtain ⟨register, hregister, hplace⟩ := halive number' hnumber'
      by_cases hne : number' = number
      · subst hne
        obtain rfl := hs.own holder holder' number' howns ⟨group.size, by rw [hgroup, ← hnumber']⟩
        -- a member that still waits has neither been forgotten nor left the crowd
        cases hk : k.register number' with
        | none =>
          rcases hforgotten hk with hnone | hall
          · rw [hregister] at hnone
            cases hnone
          · exact absurd hwaits (hall x (List.mem_of_getElem? hid))
        | some register' =>
          refine ⟨register', rfl, ?_⟩
          by_contra hgone
          exact ((hagrees register' hk place x hid).2 (Bool.eq_false_iff.2 hgone)).1 hwaits
      · exact ⟨register, (hothers number' hne).trans hregister, hplace⟩
  | @embarks _ t group limit hbegun hstart =>
    obtain ⟨hcall, -, hopens⟩ := opens_start hstart
    have hstage : ∀ x, Session.stage { t with call.begun := some (group, limit) } x = s.stage x := fun x =>
      Session.stage_congr (by rw [hcall]) x
    intro x a hx
    have hcell : Session.cell { t with call.begun := some (group, limit) } x = s.cell x := by
      rw [Session.cell, Session.cell, hcall]
    have hasking := h x a (hx.of_cell hcell)
    have hnode : a.node ≠ none := by
      intro hnone
      cases hasking with
      | member hgroup =>
        obtain rfl := hnone
        rw [Session.group?, hbegun] at hgroup
        cases hgroup
      | failover => cases hnone
    refine hasking.congr (wanted_congr g (by rw [hcall])) ?_ (fun p _ => hstage p) fun number howns => ?_
    · cases hp : a.node with
      | none => exact absurd hp hnode
      | some p => rw [Session.group?, Session.group?, hstage]
    · refine hopens.others number fun hcrowd => ?_
      have hnumbered := hs.numbered a.node number howns
      have hfresh := (hopens.number number hcrowd).2.1
      omega
  | @enters _ t u n asker w group hnode henter hstart hasking =>
    obtain ⟨hidle, halters, -⟩ := Session.enterCell_enters (hs.fits n.id) henter
    obtain ⟨hcall, -, hopens⟩ := opens_start hstart
    have hothers : ∀ x, x ≠ n.id → (u.setPhase n.id asker (.joining group)).stage x = s.stage x := fun x hx =>
      Session.stage_setPhase_of_ne halters hcall asker _ hx
    have hphase := (u.alters_setPhase n.id asker (.joining group)).call
    -- a node that was idle has asked for nothing so far
    have hkept : ∀ a x, Asking g s a x → Asking g (u.setPhase n.id asker (.joining group)) a x := by
      intro a x hasking
      have hsame : ∀ p, a.node = some p → (u.setPhase n.id asker (.joining group)).stage p = s.stage p := by
        intro p hp
        refine hothers p fun hpn => ?_
        obtain ⟨_, _, hstage, -⟩ := hasking.stage hp
        rw [hpn, hidle] at hstage
        cases hstage
      refine hasking.congr (wanted_congr g (by rw [hphase, hcall, halters.call]))
        (Session.group?_congr (by rw [hphase, hcall, halters.call]) hsame) hsame fun number howns => ?_
      refine (hopens.of_quiet halters.quiet).others number fun hcrowd => ?_
      have hnumbered := hs.numbered a.node number howns
      have hfresh := ((hopens.of_quiet halters.quiet).number number hcrowd).2.1
      omega
    intro x a hx
    by_cases hxn : x = n.id
    · subst hxn
      rcases hx with ⟨phase, hx⟩ | ⟨-, hmem⟩
      · rw [u.stage_setPhase] at hx
        cases hx
        exact hkept _ _ hasking
      · -- whoever still waits did so before, for a node that was idle
        obtain ⟨gate, hattempt, hcell⟩ := s.enterCell_attempt n.id asker w
        rw [henter] at hattempt hcell
        rw [u.cell_setPhase, Session.cell, hcall, ← Session.cell, hcell] at hmem
        rcases hattempt.mem_waiting hmem with hold | rfl
        · refine hkept a _ (h _ a (.inr ⟨?_, hold⟩))
          rw [Session.standing, Session.outcome?_eq, hidle]
          rfl
        · exact hkept _ _ hasking
    · refine hkept a x (h x a (hx.of_cell ?_))
      rw [(u.alters_setPhase n.id asker _).cell x hxn, ← halters.cell x hxn, Session.cell, Session.cell, hcall]
  | @queues _ t c asker w phase hnode hstage hearly hsupplied hpermit =>
    have htake := s.spares_takePermit c.id w
    rw [hpermit] at htake
    refine h.rephase htake ⟨phase, hstage⟩ (h.deserted_of_supplied hstage (fun e he => ?_) hsupplied) _
    rw [he] at hearly
    cases hearly
  | fetches hunderway hwaits =>
    obtain ⟨es, t', fetch', limit', hstretch, rfl⟩ := hunderway.waits hwaits
    exact h.rephase hstretch.spares hstretch.evaluated (hstretch.deserted hs h) _
  | succeeds hattempted | isSpared hattempted | breaks hattempted =>
    obtain ⟨es, hstretch⟩ := hattempted.stretch
    exact h.settle hstretch.spares (hstretch.deserted hs h) _
  | turnsOver hattempted =>
    obtain ⟨es, hstretch⟩ := hattempted.stretch
    exact h.rephase hstretch.spares hstretch.evaluated (hstretch.deserted hs h) _
  | adopts hnode hfailover hstage hended =>
    exact h.settle (.refl s) (h.deserted_of_failover hnode hfailover hstage (by rw [hended]; decide)) _
  | falls hfalls =>
    cases hfalls with
    | givesUp hnode hfailover hstage hfailed =>
      exact h.settle (.refl s) (h.deserted_of_failover hnode hfailover hstage (by rw [hfailed]; decide)) _
    | follows _ hstage _ _ _ _ hdisbanded =>
      obtain ⟨htended, hdeserted⟩ := h.disband hs (Session.group?_node hstage) hdisbanded
      exact htended.settle (.refl _) hdeserted _

theorem Moves.tended {wide : Prop} {b : Bool} (h : Moves g wide s b t) (hs : Coherent g wide s)
    (htended : Tended g s) : Tended g t :=
  h.keeps hs (fun _ _ _ hc hmove ht => ht.move hc hmove) htended

theorem Tended.deserted_none (h : Tended g s)
    (hroots : s.group? none = none ∨ ∀ id ∈ wanted g s.call none, s.standing id ≠ .waits) : Deserted none s := by
  intro x a hx hnode
  cases h x a hx with
  | member hgroup hid =>
    cases hnode
    rcases hroots with hnone | hsettled
    · rw [hgroup] at hnone
      cases hnone
    · exact hsettled x (List.mem_of_getElem? hid) hx.standing
  | failover => cases hnode

/-- A call that has broken off evaluates nothing. -/
theorem BreaksOff.nobody {r : Resolver W} {wide : Prop} (h : BreaksOff r s t) (hs : Coherent r.graph wide s)
    (htended : Tended r.graph s) (x : String) (a : Asker) (phase : Phase W) : t.stage x ≠ .evaluated a phase := by
  intro hx
  cases h with
  | idle hbegun => exact htended.nobody (htended.deserted_none (.inl hbegun)) x a (.inl ⟨phase, hx⟩)
  | roots hgroup =>
    obtain ⟨hafter, hdeserted⟩ := htended.disband hs hgroup rfl
    exact hafter.nobody hdeserted x a (.inl ⟨phase, hx⟩)

end

/-- Until a call ends all that it evaluates is asked for, and afterwards it evaluates nothing. -/
structure Attends (r : Resolver W) (c : Call W) (sh : Shared W) : Prop where
  tended : c.ending = none → Tended r.graph ⟨c, sh⟩
  after : c.ending ≠ none → ∀ x a phase, Session.stage ⟨c, sh⟩ x ≠ .evaluated a phase

theorem Closes.attends {r : Resolver W} {wide : Prop} {b : Bool} {s t : Session W} (h : Closes r b s t)
    (hs : Coherent r.graph wide s) (htended : Tended r.graph s) (hopen : s.call.ending = none) :
    Attends r t.call t.shared := by
  cases h with
  | waits => exact ⟨fun _ => htended, fun hending => absurd hopen hending⟩
  | returns hended =>
    refine ⟨nofun, fun _ x a phase hx => ?_⟩
    refine htended.nobody (htended.deserted_none (.inr fun id hid => ?_)) x a (.inl ⟨phase, hx⟩)
    rw [hended id hid]
    decide
  | breaks _ _ _ _ hbreaks => exact ⟨nofun, fun _ => hbreaks.nobody hs htended⟩
  | leaves _ _ hbreaks => exact ⟨nofun, fun _ => hbreaks.nobody hs htended⟩

theorem Attends.kept (r : Resolver W) (passes : Call W → Nat → Prop) : Kept r passes (Attends r) where
  starts c sh hfresh _ := by
    refine ⟨fun _ x a hx => ?_, fun hending => absurd hfresh.ending hending⟩
    rcases hx with ⟨phase, hx⟩ | ⟨-, hmem⟩
    · rw [hfresh.stage] at hx
      cases hx
    · rw [hfresh.cell] at hmem
      cases hmem
  turns s b t u hopen hs h hmoves hcloses := by
    have hending : t.call.ending = none := by rw [hmoves.call, hopen]
    exact hcloses.attends (hmoves.coherent hs) (hmoves.tended hs (h.tended hopen)) hending
  elsewhere c sh sh' helsewhere _ h := by
    refine ⟨fun hopen x a hx => ?_, h.after⟩
    refine (h.tended hopen x a (hx.of_cell rfl)).congr rfl rfl (fun _ _ => rfl) fun number howns => ?_
    exact helsewhere.register hopen _ number howns

/-- **In every state that can be reached, whatever is evaluated is asked for, and calls that have ended evaluate
nothing.** -/
theorem Reachable.attends {r : Resolver W} {passes : Call W → Nat → Prop} {s : Sessions W}
    (h : Reachable r passes s) : ∀ c ∈ s.calls, Attends r c s.shared := (h.kept (Attends.kept r passes)).2

end Resolver

end AttributeRelease
