import AttributeRelease.Proofs.Resolver.Moves

/-!
What breaking off does. Whoever stops asking for a node takes back what the evaluation holds, all the way
down, and leaves the cell to the next in the line. Nothing that is settled is undone by it, nobody begins
anything, and only nodes that lie deeper in the graph are touched.
-/

namespace AttributeRelease

namespace Resolver

variable {W : Type}

/-- Every node lies above what it depends on, and above its failover. -/
def Ranks (g : Graph W) (rank : String → Nat) : Prop := ∀ a b, Graph.Edge g.nodes a b → rank b < rank a

theorem exists_ranks (g : Graph W) : ∃ rank, Ranks g rank ∧ ∀ id, rank id < levels g := by
  obtain ⟨rank, hrank, hle⟩ := Graph.exists_rank g.valid
  exact ⟨rank, hrank, fun id => Nat.lt_succ_of_le (hle id)⟩

section

variable {g : Graph W} {rank : String → Nat} {n : Node W}

theorem edge_dependency {id : String} (hn : g.node? id = some n) {d : String}
    (hd : d ∈ n.dependencies.map Dependency.node) : Graph.Edge g.nodes id d := by
  obtain ⟨hmem, rfl⟩ := Graph.findNode_some hn
  exact ⟨n, hmem, rfl, List.mem_append_left _ hd⟩

theorem edge_failover {id : String} (hn : g.node? id = some n) {failover : String} (hf : n.failover = some failover) :
    Graph.Edge g.nodes id failover := by
  obtain ⟨hmem, rfl⟩ := Graph.findNode_some hn
  refine ⟨n, hmem, rfl, List.mem_append_right _ ?_⟩
  rw [hf]
  exact List.mem_singleton_self failover

theorem Ranks.dependency (h : Ranks g rank) {id : String} (hn : g.node? id = some n) {d : String}
    (hd : d ∈ n.dependencies.map Dependency.node) : rank d < rank id := h id d (edge_dependency hn hd)

theorem Ranks.failover (h : Ranks g rank) {id : String} (hn : g.node? id = some n) {failover : String}
    (hf : n.failover = some failover) : rank failover < rank id := h id failover (edge_failover hn hf)

end

namespace Drops

variable {crowd : Option Nat} {s t u : Session W}

theorem refl (crowd : Option Nat) (s : Session W) : Drops crowd s s where
  call := rfl
  stage _ := .inl rfl
  fits _ h := h
  waiting _ _ h := h
  clock := rfl
  unused := Nat.le_refl _
  register _ _ _ := rfl
  log := ⟨[], rfl, nofun⟩
  closed := rfl

theorem weaken (h : Drops none s t) (crowd : Option Nat) : Drops crowd s t :=
  { h with register := fun number _ hkept => h.register number nofun hkept }

theorem of_spares {es : List Event} (h : Spares es s t) (hes : ∀ e ∈ es, ∃ id, e = .ended s.call.number id)
    (crowd : Option Nat) : Drops crowd s t where
  call := by rw [h.call]
  stage x := .inl (Session.stage_of_spares h x)
  fits x hx := h.cell x ▸ hx
  waiting x _ ha := h.cell x ▸ ha
  clock := h.quiet.clock
  unused := h.quiet.unused
  register number _ _ := h.quiet.register number
  log := ⟨es, h.log, hes⟩
  closed := h.closed

/-- A crowd that is left at the end was there all the time. -/
theorem owns_of_owns (h : Drops crowd s t) {holder : Option String} {number : Nat}
    (howns : t.Owns holder number) : s.Owns holder number := by
  obtain ⟨size, hg⟩ := howns
  cases holder with
  | none =>
    refine ⟨size, ?_⟩
    rw [← hg, Session.group?, Session.group?, h.call]
  | some id =>
    obtain ⟨asker, hstage⟩ := Session.group?_node_eq_some hg
    rcases h.stage id with hsame | ⟨-, hgone⟩
    · exact ⟨size, Session.group?_node (hsame ▸ hstage)⟩
    · rw [hgone] at hstage
      cases hstage

theorem trans (h : Drops crowd s t) (h' : Drops crowd t u) : Drops crowd s u where
  call := by rw [h'.call, h.call]
  stage x := by
    rcases h'.stage x with hsame' | ⟨⟨asker, phase, heval⟩, hidle⟩
    · rcases h.stage x with hsame | ⟨heval, hidle⟩
      · exact .inl (hsame'.trans hsame)
      · exact .inr ⟨heval, hsame'.trans hidle⟩
    · rcases h.stage x with hsame | ⟨heval', -⟩
      · exact .inr ⟨⟨asker, phase, hsame ▸ heval⟩, hidle⟩
      · exact .inr ⟨heval', hidle⟩
  fits x hx := h'.fits x (h.fits x hx)
  waiting x a ha := h.waiting x a (h'.waiting x a ha)
  clock := h'.clock.trans h.clock
  unused := Nat.le_trans h.unused h'.unused
  register number hne hkept := by
    have hs := h.register number hne fun holder howns => h'.owns_of_owns (hkept holder howns)
    have ht := h'.register number hne fun holder howns => hkept holder (h.owns_of_owns howns)
    exact ht.trans hs
  log := by
    obtain ⟨es, hlog, hes⟩ := h.log
    obtain ⟨es', hlog', hes'⟩ := h'.log
    refine ⟨es' ++ es, by rw [hlog', hlog, List.append_assoc], fun e he => ?_⟩
    rcases List.mem_append.1 he with he | he
    · obtain ⟨id, rfl⟩ := hes' e he
      exact ⟨id, by rw [h.call]⟩
    · exact hes e he
  closed := h'.closed.trans h.closed

/-- A node that leaves its cell takes the crowd with it that was broken off. -/
theorem leave (h : Drops crowd s t) {id : String} {asker : Asker} {phase : Phase W}
    (hstage : s.stage id = .evaluated asker phase) (hkept : t.stage id = s.stage id)
    (hcrowd : ∀ number, crowd = some number → s.Owns (some id) number) : Drops none s (t.leaveCell id) := by
  have halters := t.alters_leaveCell id
  have hself := t.stage_leaveCell id
  have hothers : ∀ x, x ≠ id → (t.leaveCell id).stage x = t.stage x := fun x hx =>
    Session.stage_of_alters halters hx
  have howner : ∀ holder number, (t.leaveCell id).Owns holder number → holder ≠ some id ∧ t.Owns holder number := by
    rintro holder number ⟨size, hg⟩
    cases holder with
    | none =>
      refine ⟨nofun, size, ?_⟩
      rw [← hg, Session.group?, Session.group?, halters.call]
    | some x =>
      obtain ⟨asker', hx⟩ := Session.group?_node_eq_some hg
      have hne : x ≠ id := by
        rintro rfl
        rw [hself] at hx
        cases hx
      exact ⟨fun e => hne (Option.some.inj e), size, Session.group?_node (hothers x hne ▸ hx)⟩
  refine ⟨by rw [halters.call, h.call], fun x => ?_, fun x hx => ?_, fun x a ha => h.waiting x a ?_,
    halters.quiet.clock.trans h.clock, Nat.le_trans h.unused halters.quiet.unused, fun number _ hall => ?_, ?_,
    halters.closed.trans h.closed⟩
  · by_cases hx : x = id
    · subst hx
      exact .inr ⟨⟨asker, phase, hstage⟩, hself⟩
    · rw [hothers x hx]
      exact h.stage x
  · by_cases hxid : x = id
    · subst hxid
      rw [t.cell_leaveCell]
      exact (h.fits x hx).leave (hkept.trans hstage)
    · exact halters.cell x hxid ▸ h.fits x hx
  · by_cases hxid : x = id
    · subst hxid
      rw [t.cell_leaveCell] at ha
      exact Gate.mem_waiting_leave.1 ha
    · exact halters.cell x hxid ▸ ha
  · rw [halters.quiet.register]
    refine h.register number (fun e => ?_) fun holder howns => (howner holder number (hall holder howns)).2
    exact (howner _ number (hall _ (hcrowd number e.symm))).1 rfl
  · obtain ⟨es, hlog, hes⟩ := h.log
    exact ⟨es, halters.log.trans hlog, hes⟩

end Drops

/-- Breaking off, as far as it touches nodes below a bound. -/
structure DropsBelow (rank : String → Nat) (bound : Nat) (crowd : Option Nat) (s s' : Session W) : Prop
    extends Drops crowd s s' where
  above : ∀ x, bound ≤ rank x → s'.stage x = s.stage x

namespace DropsBelow

variable {rank : String → Nat} {bound : Nat} {crowd : Option Nat} {s t u : Session W}

theorem refl (s : Session W) : DropsBelow rank bound crowd s s := ⟨.refl crowd s, fun _ _ => rfl⟩

theorem trans (h : DropsBelow rank bound crowd s t) (h' : DropsBelow rank bound crowd t u) :
    DropsBelow rank bound crowd s u :=
  ⟨h.toDrops.trans h'.toDrops, fun x hx => (h'.above x hx).trans (h.above x hx)⟩

theorem weaken (h : DropsBelow rank bound none s t) (crowd : Option Nat) : DropsBelow rank bound crowd s t :=
  ⟨h.toDrops.weaken crowd, h.above⟩

theorem of_spares {es : List Event} (h : Spares es s t) (hes : ∀ e ∈ es, ∃ id, e = .ended s.call.number id) :
    DropsBelow rank bound crowd s t :=
  ⟨.of_spares h hes crowd, fun x _ => Session.stage_of_spares h x⟩

theorem foldl {f : Session W → Nat → Session W} (hf : ∀ s place, DropsBelow rank bound crowd s (f s place))
    (places : List Nat) (s : Session W) : DropsBelow rank bound crowd s (places.foldl f s) := by
  induction places generalizing s with
  | nil => exact .refl s
  | cons place rest ih => exact (hf s place).trans (ih (f s place))

/-- Members may go from a crowd that is broken off, and the crowd itself. -/
theorem of_crowd {number : Nat} (f : Scheduler → Scheduler) (hclock : ∀ k, (f k).clock = k.clock)
    (hunused : ∀ k, (f k).unused = k.unused) (hothers : ∀ k n, n ≠ number → (f k).register n = k.register n)
    (s : Session W) : DropsBelow rank bound (some number) s (reschedule s f) where
  call := rfl
  stage _ := .inl rfl
  fits _ h := h
  waiting _ _ h := h
  clock := hclock _
  unused := Nat.le_of_eq (hunused _).symm
  register n hne _ := hothers _ n fun e => hne (congrArg some e)
  log := ⟨[], rfl, nofun⟩
  closed := rfl
  above _ _ := rfl

theorem disband (group : Group) {dismiss : Nat → Session W → Session W}
    (hdismiss : ∀ place s, DropsBelow rank bound none s (dismiss place s)) (s : Session W) :
    DropsBelow rank bound group.crowd s (group.disband dismiss s) := by
  obtain ⟨size, crowd⟩ := group
  cases crowd with
  | none => exact foldl (fun s place => hdismiss place s) (List.range size) s
  | some number =>
    refine trans (foldl (fun s place => ?_) _ s) (of_crowd (·.closeCrowd number) (fun _ => rfl) (fun _ => rfl)
      (fun k n hn => k.register_closeCrowd_of_ne hn) _)
    have halter : DropsBelow rank bound (some number) s
        (reschedule s (·.alterCrowd number fun c => { c with alive := c.alive.erase place })) :=
      of_crowd (·.alterCrowd number _) (fun _ => rfl) (fun _ => rfl)
        (fun k n hn => k.register_alterCrowd_of_ne hn _) s
    exact halter.trans ((hdismiss place _).weaken (some number))

end DropsBelow

/-! ### Dismissal -/

section

variable {g : Graph W} {rank : String → Nat}

theorem dismissAt_drops {dismiss : Dismiss W} {bound : Nat} {ids : List String}
    (hdismiss : ∀ asker id s, id ∈ ids → DropsBelow rank bound none s (dismiss asker id s))
    (owner : Option String) (place : Nat) (s : Session W) :
    DropsBelow rank bound none s (dismissAt dismiss owner ids place s) := by
  unfold dismissAt
  cases hid : ids[place]? with
  | none => exact .refl s
  | some id => exact hdismiss _ id s (List.mem_of_getElem? hid)

/-- The crowd of a node that waits for its dependencies. -/
def Phase.crowd? : Phase W → Option Nat
  | .joining group => group.crowd
  | .queued | .fetching .. | .recovering _ => none

theorem abandon_drops (hrank : Ranks g rank) {dismiss : Dismiss W}
    (hdismiss : ∀ asker id s, DropsBelow rank (rank id + 1) none s (dismiss asker id s)) {n : Node W} {id : String}
    (hn : g.node? id = some n) (phase : Phase W) (s : Session W) :
    DropsBelow rank (rank id) phase.crowd? s (abandon dismiss n phase s) := by
  have hbelow : ∀ asker x s, rank x < rank id → DropsBelow rank (rank id) none s (dismiss asker x s) :=
    fun asker x s hx => ⟨(hdismiss asker x s).toDrops, fun y hy => (hdismiss asker x s).above y (by omega)⟩
  cases phase with
  | joining group =>
    exact .disband group (fun place s => dismissAt_drops
      (fun asker d s hd => hbelow asker d s (hrank.dependency hn hd)) _ place s) s
  | queued => exact .of_spares (s.spares_renouncePermit n.id) nofun
  | fetching fetch limit =>
    have hdrop := Session.spares_reschedule s (Strand.quiet_drop (s.party n.id) fetch s.shared.scheduler)
    exact .of_spares (hdrop.trans (Session.spares_endFetch _ n.id limit)) fun e he =>
      ⟨n.id, List.mem_singleton.1 he⟩
  | recovering =>
    unfold abandon
    cases hf : n.failover with
    | none => exact .refl s
    | some failover => exact hbelow _ failover s (hrank.failover hn hf)

theorem dismiss_drops (hrank : Ranks g rank) (levels : Nat) (asker : Asker) (id : String) (s : Session W) :
    DropsBelow rank (rank id + 1) none s (dismiss g levels asker id s) := by
  induction levels generalizing asker id s with
  | zero => exact .refl s
  | succ levels ih =>
    rw [dismiss]
    split
    · have halters := s.alters_renounceCell id asker
      have hstage := s.stage_renounceCell id asker
      refine ⟨⟨halters.call, fun x => .inl (hstage x), fun x hx => ?_, fun x a ha => ?_, halters.quiet.clock,
        halters.quiet.unused, fun number _ _ => halters.quiet.register number, ⟨[], halters.log, nofun⟩,
        halters.closed⟩, fun x _ => hstage x⟩
      · by_cases hxid : x = id
        · subst hxid
          rw [s.cell_renounceCell]
          exact hx.withdraw asker
        · exact halters.cell x hxid ▸ hx
      · by_cases hxid : x = id
        · subst hxid
          rw [s.cell_renounceCell] at ha
          exact Gate.mem_waiting_of_withdraw ha
        · exact halters.cell x hxid ▸ ha
    · split
      · next first phase n hstage hn =>
        split
        · have habandon := abandon_drops hrank (fun asker id s => ih asker id s) hn phase s
          have hkept := habandon.above id (Nat.le_refl _)
          refine ⟨habandon.toDrops.leave hstage hkept fun number hcrowd => ?_, fun x hx => ?_⟩
          · cases phase with
            | joining group =>
              refine ⟨group.size, ?_⟩
              rw [Session.group?_node hstage, ← show group.crowd = some number from hcrowd]
            | queued | fetching | recovering => cases hcrowd
          · have hne : x ≠ id := by
              rintro rfl
              omega
            rw [Session.stage_of_alters (Session.alters_leaveCell _ id) hne]
            exact habandon.above x (by omega)
        · exact .refl s
      · exact .refl s

end

end Resolver

end AttributeRelease
