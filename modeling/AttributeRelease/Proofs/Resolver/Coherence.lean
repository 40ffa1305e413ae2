import AttributeRelease.Proofs.Resolver.Moves

/-!
Moves keep a call coherent. What is settled stays settled, so that a register that was right stays right;
groups only come with a number that nothing had before; and nobody enters a cell but the one that its gate
lets in.
-/

namespace AttributeRelease

namespace Resolver

variable {W : Type}

/-- A group is started: it has a crowd of its own if it is large, and all its members are alive. -/
structure Opens (members : Nat) (group : Group) (k k' : Scheduler) : Prop where
  size : group.size = members
  clock : k'.clock = k.clock
  unused : k.unused ≤ k'.unused
  number : ∀ n, group.crowd = some n → Group.maxInOrder < members ∧ k.unused ≤ n ∧ n < k'.unused ∧
    k'.register n = some fun place => (decide (place < members), false)
  others : ∀ n, group.crowd ≠ some n → k'.register n = k.register n

theorem Opens.of_quiet {members : Nat} {group : Group} {k₁ k₂ k₃ : Scheduler} (h : k₁.Quiet k₂)
    (h' : Opens members group k₂ k₃) : Opens members group k₁ k₃ where
  size := h'.size
  clock := h'.clock.trans h.clock
  unused := Nat.le_trans h.unused h'.unused
  number n hn := by
    obtain ⟨hsize, hle, hlt, hregister⟩ := h'.number n hn
    exact ⟨hsize, Nat.le_trans h.unused hle, hlt, hregister⟩
  others n hn := (h'.others n hn).trans (h.register n)

theorem opens_start {size : Nat} {s t : Session W} {group : Group} (h : Group.start size s = (group, t)) :
    t.call = s.call ∧ t.shared.log = s.shared.log ∧
      Opens size group s.shared.scheduler t.shared.scheduler := by
  unfold Group.start at h
  split at h
  · cases h
    exact ⟨rfl, rfl, rfl, rfl, Nat.le_refl _, nofun, fun _ _ => rfl⟩
  · next hsize =>
    cases h
    refine ⟨rfl, rfl, rfl, rfl, Nat.le_succ _, fun n hn => ?_, fun n hn => ?_⟩
    · obtain rfl := Option.some.inj hn
      exact ⟨Nat.lt_of_not_le hsize, Nat.le_refl _, Nat.lt_succ_self _,
        s.shared.scheduler.register_openCrowd_self size⟩
    · exact s.shared.scheduler.register_openCrowd_of_ne size fun e => hn (congrArg some e.symm)

theorem permits_start {size : Nat} {s t : Session W} {group : Group} (h : Group.start size s = (group, t)) :
    t.shared.permits = s.shared.permits := by
  unfold Group.start at h
  split at h <;> cases h <;> rfl

theorem wanted_congr (g : Graph W) {c c' : Call W} (h : c'.requested = c.requested) :
    wanted g c' = wanted g c := by
  funext holder
  cases holder with
  | none => rw [wanted, wanted, h]
  | some id => rfl

theorem Supplied.mono {g : Graph W} {s s' : Session W} {id : String} (h : Supplied g s id)
    (hwanted : wanted g s'.call = wanted g s.call)
    (hstands : ∀ x, s.standing x ≠ .waits → s'.standing x = s.standing x) : Supplied g s' id := by
  intro d hd
  rw [hwanted] at hd
  rw [hstands d (by rw [h d hd]; exact nofun), h d hd]

theorem Supplied.ended {g : Graph W} {s : Session W} {n : Node W} (h : Supplied g s n.id)
    (hn : g.node? n.id = some n) {d : Dependency} (hd : d ∈ n.dependencies) : s.standing d.node = .ended := by
  apply h
  rw [wanted_node s.call hn]
  exact List.mem_map_of_mem hd

namespace Coherent

variable {g : Graph W} {wide : Prop} {s s' : Session W}

/-- Groups may go and nodes may settle; all that is left to see is that registers are right. -/
theorem mono (hs : Coherent g wide s) (hclosed : s'.shared.permits.closed = s.shared.permits.closed)
    (hfits : ∀ x, (s'.cell x).Fits)
    (hwanted : wanted g s'.call = wanted g s.call)
    (hgroup : ∀ holder group, s'.group? holder = some group → s.group? holder = some group)
    (hstands : ∀ x, s.standing x ≠ .waits → s'.standing x = s.standing x)
    (hunused : s.shared.scheduler.unused ≤ s'.shared.scheduler.unused)
    (hregister : ∀ holder number, s'.Owns holder number →
      s'.shared.scheduler.register number = s.shared.scheduler.register number ∨
        (∀ register, s'.shared.scheduler.register number = some register →
          Agrees s (wanted g s.call holder) register) ∧
        (s'.shared.scheduler.register number = none → ∀ id ∈ wanted g s.call holder, s.standing id ≠ .waits))
    (hsupplied : ∀ id asker phase, s'.stage id = .evaluated asker phase → phase.isJoining = false →
      s.stage id = s'.stage id ∨ Supplied g s id) : Coherent g wide s' where
  spread holder := by
    rw [hwanted]
    exact hs.spread holder
  opened := hclosed.trans hs.opened
  fits := hfits
  size holder group h := by
    rw [hwanted]
    exact hs.size holder group (hgroup holder group h)
  wide holder number := fun ⟨size, h⟩ => hs.wide holder number ⟨size, hgroup _ _ h⟩
  numbered holder number := fun ⟨size, h⟩ =>
    Nat.lt_of_lt_of_le (hs.numbered holder number ⟨size, hgroup _ _ h⟩) hunused
  agrees holder number register howns hreg := by
    rw [hwanted]
    rcases hregister holder number howns with hold | ⟨hagrees, -⟩
    · obtain ⟨size, h⟩ := howns
      exact (hs.agrees holder number register ⟨size, hgroup _ _ h⟩ (hold.symm.trans hreg)).mono hstands
    · exact (hagrees register hreg).mono hstands
  forgotten holder number howns hnone id hid := by
    rw [hwanted] at hid
    have hsettled : s.standing id ≠ .waits := by
      rcases hregister holder number howns with hold | ⟨-, hall⟩
      · obtain ⟨size, h⟩ := howns
        exact hs.forgotten holder number ⟨size, hgroup _ _ h⟩ (hold.symm.trans hnone) id hid
      · exact hall hnone id hid
    rw [hstands id hsettled]
    exact hsettled
  own holder holder' number := fun ⟨_, h⟩ ⟨_, h'⟩ =>
    hs.own holder holder' number ⟨_, hgroup _ _ h⟩ ⟨_, hgroup _ _ h'⟩
  supplied id asker phase hstage hphase := by
    rcases hsupplied id asker phase hstage hphase with hold | hsup
    · exact (hs.supplied id asker phase (hold.trans hstage) hphase).mono hwanted hstands
    · exact hsup.mono hwanted hstands

/-- A group that starts has the right register. -/
theorem gather (hs : Coherent g wide s) (holder : Option String) {group : Group}
    (hclosed : s'.shared.permits.closed = s.shared.permits.closed) (hfits : ∀ x, (s'.cell x).Fits)
    (hwanted : wanted g s'.call = wanted g s.call)
    (hgroup : s'.group? holder = some group) (hothers : ∀ h, h ≠ holder → s'.group? h = s.group? h)
    (hstands : ∀ x, s'.standing x = s.standing x)
    (hopens : Opens (wanted g s.call holder).length group s.shared.scheduler s'.shared.scheduler)
    (hsupplied : ∀ id asker phase, s'.stage id = .evaluated asker phase → phase.isJoining = false →
      s.stage id = s'.stage id) : Coherent g wide s' := by
  have hold : ∀ {h number}, h ≠ holder → s'.Owns h number → s.Owns h number :=
    fun hne ⟨size, h⟩ => ⟨size, hothers _ hne ▸ h⟩
  have hnew : ∀ {number}, s'.Owns holder number → group.crowd = some number := by
    rintro number ⟨size, h⟩
    rw [hgroup] at h
    rw [Option.some.inj h]
  -- A number that was in use before is below the first one that was unused then.
  have hfresh : ∀ {h number}, h ≠ holder → s'.Owns h number → group.crowd ≠ some number := by
    intro h number hne howns hcrowd
    have hlt := hs.numbered h number (hold hne howns)
    exact absurd (hopens.number number hcrowd).2.1 (Nat.not_le.2 hlt)
  refine ⟨fun h => hwanted ▸ hs.spread h, hclosed.trans hs.opened, hfits, fun h group' hg => ?_,
    fun h number howns => ?_, fun h number howns => ?_, fun h number register howns hreg => ?_,
    fun h number howns hnone id hid => ?_, fun h h' number howns howns' => ?_,
    fun id asker phase hstage hphase => ?_⟩
  · rw [hwanted]
    by_cases hh : h = holder
    · subst hh
      rw [hgroup] at hg
      rw [← Option.some.inj hg, hopens.size]
    · rw [hothers h hh] at hg
      exact hs.size h group' hg
  · by_cases hh : h = holder
    · subst hh
      exact hs.spread h (hopens.number number (hnew howns)).1
    · exact hs.wide h number (hold hh howns)
  · by_cases hh : h = holder
    · subst hh
      exact (hopens.number number (hnew howns)).2.2.1
    · exact Nat.lt_of_lt_of_le (hs.numbered h number (hold hh howns)) hopens.unused
  · rw [hwanted]
    by_cases hh : h = holder
    · subst hh
      rw [(hopens.number number (hnew howns)).2.2.2] at hreg
      obtain rfl := Option.some.inj hreg
      intro place id hid
      obtain ⟨hlt, -⟩ := List.getElem?_eq_some_iff.1 hid
      exact ⟨fun h => absurd h Bool.false_ne_true, fun h => absurd hlt (of_decide_eq_false h)⟩
    · rw [hopens.others number (hfresh hh howns)] at hreg
      exact (hs.agrees h number register (hold hh howns) hreg).mono fun x _ => hstands x
  · rw [hwanted] at hid
    rw [hstands id]
    by_cases hh : h = holder
    · subst hh
      rw [(hopens.number number (hnew howns)).2.2.2] at hnone
      cases hnone
    · rw [hopens.others number (hfresh hh howns)] at hnone
      exact hs.forgotten h number (hold hh howns) hnone id hid
  · by_cases hh : h = holder
    · by_cases hh' : h' = holder
      · rw [hh, hh']
      · exact absurd (hnew (hh ▸ howns)) (hfresh hh' howns')
    · by_cases hh' : h' = holder
      · exact absurd (hnew (hh' ▸ howns')) (hfresh hh howns)
      · exact hs.own h h' number (hold hh howns) (hold hh' howns')
  · have hsup := hs.supplied id asker phase ((hsupplied id asker phase hstage hphase).trans hstage) hphase
    exact hsup.mono hwanted fun x _ => hstands x

end Coherent

/-- The cell of a node that is evaluated changes: the node has all that it depends on, or is settled now. -/
structure Turns (g : Graph W) (id : String) (s s' : Session W) : Prop where
  evaluated : ∃ asker phase, s.stage id = .evaluated asker phase
  fits : (s.cell id).Fits → (s'.cell id).Fits
  stage : (∃ asker phase, s'.stage id = .evaluated asker phase ∧ phase.isJoining = false ∧ Supplied g s id) ∨
    ∃ o, s'.stage id = .settled o

/-- A node that has its turn has no group after it that it did not have before. -/
theorem Turns.group? {g : Graph W} {id : String} {es : List Event} {s s' : Session W} (hturns : Turns g id s s')
    (halters : Alters id es s s') {holder : Option String} {group : Group} (h : s'.group? holder = some group) :
    s.group? holder = some group := by
  by_cases hid : holder = some id
  · subst hid
    obtain ⟨asker, hjoining⟩ := Session.group?_node_eq_some h
    rcases hturns.stage with ⟨_, phase, hstage, hphase, -⟩ | ⟨o, hstage⟩
    · rw [hstage] at hjoining
      cases hjoining
      cases hphase
    · rw [hstage] at hjoining
      cases hjoining
  · rw [← h]
    refine (Session.group?_congr (by rw [halters.call]) fun x hx => ?_).symm
    exact Session.stage_of_alters halters fun e => hid (by rw [hx, e])

theorem Coherent.turns {g : Graph W} {wide : Prop} {s s' : Session W} (hs : Coherent g wide s) {id : String}
    {es : List Event} (halters : Alters id es s s') (hturns : Turns g id s s') : Coherent g wide s' := by
  have hothers : ∀ x, x ≠ id → s'.stage x = s.stage x := fun x hx => Session.stage_of_alters halters hx
  refine hs.mono halters.closed (fun x => ?_) (wanted_congr g (by rw [halters.call]))
    (fun holder group => hturns.group? halters) (fun x hx => ?_)
    halters.quiet.unused (fun holder number _ => .inl (halters.quiet.register number))
    fun x asker phase hx hphase => ?_
  · by_cases hxid : x = id
    · exact hxid ▸ hturns.fits (hs.fits id)
    · exact halters.cell x hxid ▸ hs.fits x
  · by_cases hxid : x = id
    · obtain ⟨asker, phase, hstage⟩ := hturns.evaluated
      obtain ⟨o, hsettled, -⟩ := Session.settled_of_standing hx
      rw [hxid, hstage] at hsettled
      cases hsettled
    · exact Session.standing_eq_standing (hothers x hxid)
  · by_cases hxid : x = id
    · subst hxid
      rcases hturns.stage with ⟨_, _, -, -, hsup⟩ | ⟨o, hstage⟩
      · exact .inr hsup
      · rw [hstage] at hx
        cases hx
    · exact .inl (hothers x hxid).symm

/-- A node does what it is for, or goes on with it, and these events are put down. -/
inductive Stretch (g : Graph W) (asker : Asker) (id : String) : List Event → Session W → Session W → Prop
  | early {s t : Session W} {phase : Phase W} {es : List Event} (hstage : s.stage id = .evaluated asker phase)
    (hearly : phase.isEarly = true) (hsupplied : Supplied g s id) (hspares : Spares es s t)
    (hes : (∃ r, es = [.own s.call.number id r, .computed s.call.number id]) ∨ es = [.began s.call.number id] ∨
      ∃ r, es = [.own s.call.number id r, .ended s.call.number id, .began s.call.number id]) :
    Stretch g asker id es s t
  | late {s t : Session W} {fetch : Strand W (Except ConnectorError AttributeMap)} {limit : Alarm}
    {es : List Event} (hstage : s.stage id = .evaluated asker (.fetching fetch limit)) (hspares : Spares es s t)
    (hes : es = [] ∨ ∃ r, es = [.own s.call.number id r, .ended s.call.number id]) : Stretch g asker id es s t

theorem Underway.stretch {g : Graph W} {asker : Asker} {w : Waker} {c : ConnectorNode W} {s t : Session W}
    {fetch : Strand W (Except ConnectorError AttributeMap)} {limit : Alarm}
    (h : Underway g asker w c s fetch limit t) :
    Stretch g asker c.id [] s t ∨ Stretch g asker c.id [.began s.call.number c.id] s t := by
  cases h with
  | goesOn _ hstage => exact .inl (.late hstage (.refl _) (.inl rfl))
  | @begins t _ _ hstage hearly hsupplied hpermit =>
    have htake : Spares [] s t := by
      have h := s.spares_takePermit c.id w
      rwa [hpermit] at h
    have hnumber : t.call.number = s.call.number := by rw [htake.call]
    rw [← hnumber]
    exact .inr (.early hstage hearly hsupplied (htake.trans (t.spares_record _)) (.inr (.inl (by rw [hnumber]))))

/-- A fetch that goes on is put down, in a state that differs from the one before in nothing that lasts. -/
theorem Underway.waits {g : Graph W} {asker : Asker} {w : Waker} {c : ConnectorNode W} {s t u : Session W}
    {fetch : Strand W (Except ConnectorError AttributeMap)} {limit : Alarm}
    (h : Underway g asker w c s fetch limit t)
    (hwaits : Pursuit.fetchOn asker w c fetch limit t = (none, u)) :
    ∃ es t' fetch' limit', Stretch g asker c.id es s t' ∧
      u = t'.setPhase c.id asker (.fetching fetch' limit') := by
  rcases Pursuit.fetchOn_effect asker w c fetch limit t with ⟨r, hr, -⟩ | ⟨fetch', limit', t', ht', hspares⟩
  · rw [hwaits] at hr
    cases hr
  · rw [hwaits] at ht'
    obtain ⟨-, rfl⟩ := Prod.mk.inj ht'
    rcases h.stretch with hstretch | hstretch
    · cases hstretch with
      | early _ _ _ _ hes => simp at hes
      | late hstage hs _ => exact ⟨_, t', fetch', limit', .late hstage (hs.trans hspares) (.inl rfl), rfl⟩
    · cases hstretch with
      | early hstage hearly hsupplied hs _ =>
        exact ⟨_, t', fetch', limit', .early hstage hearly hsupplied (hs.trans hspares) (.inr (.inl rfl)), rfl⟩
      | late _ _ hes => simp at hes

theorem Attempted.stretch {g : Graph W} {asker : Asker} {n : Node W} {r : Except ResolutionError AttributeMap}
    {s t : Session W} (h : Attempted g asker n r s t) : ∃ es, Stretch g asker n.id es s t := by
  cases h with
  | computed _ hstage hsupplied =>
    exact ⟨_, .early hstage rfl hsupplied ((s.spares_record _).trans (Session.spares_record _ _)) (.inl ⟨_, rfl⟩)⟩
  | @fetched _ u v c w fetch limit r hunderway hended =>
    rcases Pursuit.fetchOn_effect asker w c fetch limit u with ⟨r', -, hspares⟩ | ⟨_, _, _, hnone, -⟩
    · rw [hended] at hspares
      have hown := hspares.trans (v.spares_record (.own v.call.number c.id (r.mapError (.connector c.id))))
      rw [hspares.call] at hown ⊢
      rcases hunderway.stretch with hstretch | hstretch
      · cases hstretch with
        | early _ _ _ _ hes => simp at hes
        | late hstage hs _ =>
          rw [hs.call] at hown ⊢
          exact ⟨_, .late hstage (hs.trans hown) (.inr ⟨_, rfl⟩)⟩
      · cases hstretch with
        | early hstage hearly hsupplied hs _ =>
          rw [hs.call] at hown ⊢
          exact ⟨_, .early hstage hearly hsupplied (hs.trans hown) (.inr (.inr ⟨_, rfl⟩))⟩
        | late _ _ hes => simp at hes
    · rw [hended] at hnone
      cases hnone

theorem Attempted.node {g : Graph W} {asker : Asker} {n : Node W} {r : Except ResolutionError AttributeMap}
    {s t : Session W} (h : Attempted g asker n r s t) : g.node? n.id = some n := by
  cases h with
  | computed hnode => exact hnode
  | fetched hunderway _ =>
    cases hunderway with
    | goesOn hnode | begins hnode => exact hnode

namespace Stretch

variable {g : Graph W} {wide : Prop} {asker : Asker} {id : String} {es : List Event} {s t : Session W}

theorem spares (h : Stretch g asker id es s t) : Spares es s t := by
  cases h with
  | early _ _ _ hspares => exact hspares
  | late _ hspares => exact hspares

theorem evaluated (h : Stretch g asker id es s t) : ∃ phase, s.stage id = .evaluated asker phase := by
  cases h with
  | early hstage => exact ⟨_, hstage⟩
  | late hstage => exact ⟨_, hstage⟩

theorem supplied (h : Stretch g asker id es s t) (hs : Coherent g wide s) : Supplied g s id := by
  cases h with
  | early _ _ hsupplied => exact hsupplied
  | late hstage => exact hs.supplied id _ _ hstage rfl

/--
A fetch ends, the node comes to something by itself, or it begins, which it does only once it has all that it
depends on.
-/
theorem event (h : Stretch g asker id es s t) {e : Event} (he : e ∈ es) :
    (e = .ended s.call.number id ∨ ∃ r, e = .own s.call.number id r) ∨
      (e = .computed s.call.number id ∨ e = .began s.call.number id) ∧ Supplied g s id := by
  cases h with
  | early _ _ hsupplied _ hes =>
    rcases hes with ⟨r, rfl⟩ | rfl | ⟨r, rfl⟩
    · rcases List.mem_cons.1 he with he | he
      · exact .inl (.inr ⟨r, he⟩)
      · exact .inr ⟨.inl (List.mem_singleton.1 he), hsupplied⟩
    · exact .inr ⟨.inr (List.mem_singleton.1 he), hsupplied⟩
    · rcases List.mem_cons.1 he with he | he
      · exact .inl (.inr ⟨r, he⟩)
      · rcases List.mem_cons.1 he with he | he
        · exact .inl (.inl he)
        · exact .inr ⟨.inr (List.mem_singleton.1 he), hsupplied⟩
  | late _ _ hes =>
    rcases hes with rfl | ⟨r, rfl⟩
    · cases he
    · rcases List.mem_cons.1 he with he | he
      · exact .inl (.inr ⟨r, he⟩)
      · exact .inl (.inl (List.mem_singleton.1 he))

end Stretch

/-- Whoever settles a node that is evaluated turns it. -/
theorem turns_settle {g : Graph W} {es : List Event} {s t : Session W} (hspares : Spares es s t) {id : String}
    (hstage : ∃ asker phase, s.stage id = .evaluated asker phase) (o : Outcome) :
    Turns g id s (t.settle id o) where
  evaluated := hstage
  fits h := by
    obtain ⟨_, _, hstage⟩ := hstage
    rw [t.cell_settle, hspares.cell]
    exact h.settle hstage o
  stage := .inr ⟨o, t.stage_settle id o⟩

theorem turns_setPhase {g : Graph W} {es : List Event} {s t : Session W} (hspares : Spares es s t) {id : String}
    {asker : Asker} (phase : Phase W) (hstage : ∃ phase, s.stage id = .evaluated asker phase)
    (hphase : phase.isJoining = false) (hsupplied : Supplied g s id) :
    Turns g id s (t.setPhase id asker phase) where
  evaluated := ⟨asker, hstage⟩
  fits h := by
    obtain ⟨_, hstage⟩ := hstage
    rw [t.cell_setPhase, hspares.cell]
    exact h.rephase hstage phase
  stage := .inl ⟨asker, phase, t.stage_setPhase id asker phase, hphase, hsupplied⟩

/-! ### Every move -/

namespace Session

/-- Whoever comes through the gate of a node has found it idle, and leaves a gate that fits its evaluation. -/
theorem enterCell_enters {s t : Session W} {id : String} {asker : Asker} {w : Waker}
    (hfits : (s.cell id).Fits) (h : s.enterCell id asker w = (.enters, t)) :
    s.stage id = .idle ∧ Alters id [] s t ∧
      ∀ phase, Cell.Fits (⟨(t.cell id).gate, .evaluated asker phase⟩ : Cell W) := by
  obtain ⟨gate, hattempt, hcell⟩ := s.enterCell_attempt id asker w
  have halters := s.alters_enterCell id asker w
  rw [h] at hattempt hcell halters
  obtain ⟨hidle, hgate⟩ := hfits.enters hattempt
  refine ⟨hidle, halters, fun phase => ?_⟩
  rw [hcell]
  exact hgate phase

end Session

/-- Whoever still has a group after others were broken off and a node was settled is not that node. -/
theorem Drops.group?_settle {crowd : Option Nat} {s t : Session W} (h : Drops crowd s t) {id : String} {o : Outcome}
    {holder : Option String} {group : Group} (hg : (t.settle id o).group? holder = some group) :
    holder ≠ some id ∧ t.group? holder = some group ∧ s.group? holder = some group := by
  have halters := t.alters_settle id o
  cases holder with
  | none =>
    refine ⟨nofun, ?_, ?_⟩
    · rw [← hg, Session.group?, Session.group?, halters.call]
    · rw [← hg, Session.group?, Session.group?, halters.call, h.call]
  | some x =>
    obtain ⟨asker', hx⟩ := Session.group?_node_eq_some hg
    have hne : x ≠ id := by
      rintro rfl
      rw [t.stage_settle] at hx
      cases hx
    rw [Session.stage_of_alters halters hne] at hx
    refine ⟨fun e => hne (Option.some.inj e), Session.group?_node hx, ?_⟩
    rcases h.stage x with hsame | ⟨-, hgone⟩
    · exact Session.group?_node (hsame ▸ hx)
    · rw [hgone] at hx
      cases hx

namespace Coherent

variable {g : Graph W} {wide : Prop} {s s' : Session W}

theorem settle (hs : Coherent g wide s) {es : List Event} {t : Session W} (hspares : Spares es s t) {id : String}
    (hstage : ∃ asker phase, s.stage id = .evaluated asker phase) (o : Outcome) :
    Coherent g wide (t.settle id o) :=
  hs.turns ((hspares.alters id).trans (t.alters_settle id o)) (turns_settle hspares hstage o)

theorem rephase (hs : Coherent g wide s) {es : List Event} {t : Session W} (hspares : Spares es s t)
    {id : String} {asker : Asker} {phase : Phase W} (hstage : ∃ phase, s.stage id = .evaluated asker phase)
    (hphase : phase.isJoining = false) (hsupplied : Supplied g s id) :
    Coherent g wide (t.setPhase id asker phase) :=
  hs.turns ((hspares.alters id).trans (t.alters_setPhase id asker phase))
    (turns_setPhase hspares phase hstage hphase hsupplied)

theorem enter (hs : Coherent g wide s) {t u : Session W} {n : Node W} {asker : Asker} {w : Waker}
    {group : Group} (hnode : g.node? n.id = some n) (henter : s.enterCell n.id asker w = (.enters, t))
    (hstart : Group.start n.dependencies.length t = (group, u)) :
    Coherent g wide (u.setPhase n.id asker (.joining group)) := by
  obtain ⟨hidle, halters, hgate⟩ := Session.enterCell_enters (hs.fits n.id) henter
  obtain ⟨hcall, hlog, hopens⟩ := opens_start hstart
  have hcell : ∀ x, x ≠ n.id → (u.setPhase n.id asker (.joining group)).cell x = s.cell x := by
    intro x hx
    rw [(u.alters_setPhase n.id asker _).cell x hx, ← halters.cell x hx, Session.cell, Session.cell, hcall]
  have hself := u.stage_setPhase n.id asker (.joining group)
  have hothers : ∀ x, x ≠ n.id → (u.setPhase n.id asker (.joining group)).stage x = s.stage x := fun x hx =>
    Session.stage_setPhase_of_ne halters hcall asker _ hx
  have hbegun : (u.setPhase n.id asker (.joining group)).call.begun = s.call.begun := by
    rw [(u.alters_setPhase n.id asker _).call, hcall, halters.call]
  have hlength : (wanted g s.call (some n.id)).length = n.dependencies.length := by
    rw [wanted_node s.call hnode, List.length_map]
  have hclosed : (u.setPhase n.id asker (.joining group)).shared.permits.closed = s.shared.permits.closed :=
    (congrArg Gate.closed (permits_start hstart)).trans halters.closed
  refine hs.gather (some n.id) hclosed (fun x => ?_) (wanted_congr g ?_) (Session.group?_node hself)
    (fun holder hne => ?_) (fun x => ?_) (hlength ▸ hopens.of_quiet halters.quiet)
    fun x asker' phase hx hphase => ?_
  · by_cases hx : x = n.id
    · subst hx
      rw [u.cell_setPhase, Session.cell, hcall]
      exact hgate _
    · exact hcell x hx ▸ hs.fits x
  · rw [(u.alters_setPhase n.id asker _).call, hcall, halters.call]
  · exact Session.group?_congr (by rw [hbegun]) fun x hx => hothers x fun e => hne (by rw [hx, e])
  · by_cases hx : x = n.id
    · subst hx
      rw [Session.standing, Session.outcome?_eq, hself, Session.standing, Session.outcome?_eq, hidle]
    · exact Session.standing_eq_standing (hothers x hx)
  · by_cases hxn : x = n.id
    · subst hxn
      rw [hself] at hx
      cases hx
      cases hphase
    · exact (hothers x hxn).symm

theorem embark (hs : Coherent g wide s) {t : Session W} {group : Group} {limit : Option Alarm}
    (hstart : Group.start (wanted g s.call none).length s = (group, t)) :
    Coherent g wide { t with call.begun := some (group, limit) } := by
  obtain ⟨hcall, hlog, hopens⟩ := opens_start hstart
  have hstage : ∀ x, Session.stage { t with call.begun := some (group, limit) } x = s.stage x := by
    intro x
    exact Session.stage_congr (by rw [hcall]) x
  have hpermits := permits_start hstart
  refine hs.gather none (congrArg Gate.closed hpermits) (fun x => ?_) (wanted_congr g (by rw [hcall])) rfl
    (fun holder hne => ?_)
    (fun x => Session.standing_eq_standing (hstage x)) hopens fun x _ _ _ _ => (hstage x).symm
  · have hfits := hs.fits x
    rw [Session.cell] at hfits ⊢
    rw [hcall]
    exact hfits
  · cases holder with
    | none => exact absurd rfl hne
    | some id => rw [Session.group?, Session.group?, hstage id]

theorem follow (hs : Coherent g wide s) {t : Session W} {id : String} {asker : Asker} {group : Group}
    {e : ResolutionError} (hstage : s.stage id = .evaluated asker (.joining group))
    (hdrops : Drops group.crowd s t) (hkept : t.stage id = s.stage id) :
    Coherent g wide (t.settle id (.failed e)) := by
  have halters := t.alters_settle id (.failed e)
  have hself := t.stage_settle id (.failed e)
  have hothers : ∀ x, x ≠ id → (t.settle id (.failed e)).stage x = t.stage x := fun x hx =>
    Session.stage_of_alters halters hx
  refine hs.mono (halters.closed.trans hdrops.closed) (fun x => ?_)
    (wanted_congr g (by rw [halters.call, hdrops.call]))
    (fun holder group' h => (hdrops.group?_settle h).2.2) (fun x hx => ?_)
    (Nat.le_trans hdrops.unused halters.quiet.unused)
    (fun holder number ⟨size, hg⟩ => .inl ?_) fun x asker' phase hx hphase => ?_
  · by_cases hx : x = id
    · subst hx
      rw [t.cell_settle]
      exact (hdrops.fits x (hs.fits x)).settle (hkept.trans hstage) _
    · exact halters.cell x hx ▸ hdrops.fits x (hs.fits x)
  · obtain ⟨o, hsettled, -⟩ := Session.settled_of_standing hx
    have hne : x ≠ id := by
      rintro rfl
      rw [hstage] at hsettled
      cases hsettled
    rcases hdrops.stage x with hsame | ⟨⟨_, _, heval⟩, -⟩
    · exact Session.standing_eq_standing ((hothers x hne).trans hsame)
    · rw [heval] at hsettled
      cases hsettled
  · -- A crowd that is still there is not the one that is broken off, since each crowd is one node's own.
    obtain ⟨hne, ht, hg'⟩ := hdrops.group?_settle hg
    rw [halters.quiet.register]
    refine hdrops.register number (fun hcrowd => hne ?_) fun h howns => ?_
    · exact hs.own _ _ number ⟨size, hg'⟩ ⟨group.size, by rw [Session.group?_node hstage, hcrowd]⟩
    · obtain rfl := hs.own _ _ number howns ⟨size, hg'⟩
      exact ⟨size, ht⟩
  · have hne : x ≠ id := by
      rintro rfl
      rw [hself] at hx
      cases hx
    rcases hdrops.stage x with hsame | ⟨-, hgone⟩
    · exact .inl ((hothers x hne).trans hsame).symm
    · rw [hothers x hne, hgone] at hx
      cases hx

/-- **Every move keeps a call coherent.** -/
theorem move (hs : Coherent g wide s) {b : Bool} (h : Move g b s s') : Coherent g wide s' := by
  cases h with
  | rests hcall hbegun hstage hfits hquiet _ hpermits =>
    refine hs.mono (congrArg Gate.closed hpermits) (fun x => hfits x (hs.fits x))
      (wanted_congr g (by rw [hcall])) (fun holder group h => ?_)
      (fun x _ => Session.standing_eq_standing (hstage x)) hquiet.unused
      (fun _ number _ => .inl (hquiet.register number)) fun x _ _ _ _ => .inl (hstage x).symm
    rw [← h]
    exact (Session.group?_congr hbegun fun x _ => hstage x).symm
  | @notes _ k holder number howns _ hunused hothers hagrees hforgotten =>
    refine hs.mono rfl hs.fits rfl (fun _ _ h => h) (fun _ _ => rfl) hunused
      (fun holder' number' howns' => ?_) fun _ _ _ _ _ => .inl rfl
    by_cases hnumber : number' = number
    · subst hnumber
      obtain rfl := hs.own holder holder' number' howns howns'
      refine .inr ⟨hagrees, fun hnone => ?_⟩
      rcases hforgotten hnone with hold | hall
      · exact hs.forgotten holder number' howns hold
      · exact hall
    · exact .inl (hothers number' hnumber)
  | embarks _ hstart => exact hs.embark hstart
  | enters hnode henter hstart => exact hs.enter hnode henter hstart
  | @queues _ t c asker w _ hnode hstage hearly hsupplied hpermit =>
    have htake := s.spares_takePermit c.id w
    rw [hpermit] at htake
    exact hs.rephase htake ⟨_, hstage⟩ rfl hsupplied
  | fetches hunderway hwaits =>
    obtain ⟨es, t', fetch', limit', hstretch, rfl⟩ := hunderway.waits hwaits
    exact hs.rephase hstretch.spares hstretch.evaluated rfl (hstretch.supplied hs)
  | succeeds hattempted | isSpared hattempted | breaks hattempted =>
    obtain ⟨es, hstretch⟩ := hattempted.stretch
    exact hs.settle hstretch.spares ⟨_, hstretch.evaluated⟩ _
  | turnsOver hattempted =>
    obtain ⟨es, hstretch⟩ := hattempted.stretch
    exact hs.rephase hstretch.spares hstretch.evaluated rfl (hstretch.supplied hs)
  | adopts _ _ hstage => exact hs.settle (.refl s) ⟨_, _, hstage⟩ _
  | falls hfalls =>
    cases hfalls with
    | givesUp _ _ hstage => exact hs.settle (.refl s) ⟨_, _, hstage⟩ _
    | follows _ hstage _ _ hdrops hkept => exact hs.follow hstage hdrops hkept

end Coherent

/-- A move leaves everything of a call alone but its cells and its own group. -/
theorem Move.call {g : Graph W} {b : Bool} {s s' : Session W} (h : Move g b s s') :
    s'.call = { s.call with cells := s'.call.cells, begun := s'.call.begun } := by
  have hof : ∀ {id es} {t : Session W}, Alters id es s t →
      t.call = { s.call with cells := t.call.cells, begun := t.call.begun } := by
    intro id es t halters
    rw [halters.call]
  cases h with
  | rests hcall => exact hcall
  | notes => rfl
  | embarks _ hstart =>
    obtain ⟨hcall, -, -⟩ := opens_start hstart
    rw [hcall]
  | @enters _ t u n asker w group _ henter hstart =>
    obtain ⟨hcall, -, -⟩ := opens_start hstart
    have halters := s.alters_enterCell n.id asker w
    rw [henter] at halters
    rw [(u.alters_setPhase n.id asker _).call, hcall, halters.call]
  | @queues _ t c asker w _ _ _ _ _ hpermit =>
    have htake := s.spares_takePermit c.id w
    rw [hpermit] at htake
    exact hof ((htake.alters c.id).trans (t.alters_setPhase c.id asker _))
  | fetches hunderway hwaits =>
    obtain ⟨es, t', fetch', limit', hstretch, rfl⟩ := hunderway.waits hwaits
    exact hof ((hstretch.spares.alters _).trans (t'.alters_setPhase _ _ _))
  | succeeds hattempted | isSpared hattempted | breaks hattempted =>
    obtain ⟨es, hstretch⟩ := hattempted.stretch
    exact hof ((hstretch.spares.alters _).trans (Session.alters_settle _ _ _))
  | turnsOver hattempted =>
    obtain ⟨es, hstretch⟩ := hattempted.stretch
    exact hof ((hstretch.spares.alters _).trans (Session.alters_setPhase _ _ _ _))
  | adopts => exact hof (s.alters_settle _ _)
  | falls hfalls =>
    cases hfalls with
    | givesUp => exact hof (s.alters_settle _ _)
    | @follows t n _ _ d _ _ _ _ hdrops =>
      rw [(t.alters_settle n.id (.failed (s.failure d))).call, hdrops.call]

theorem Moves.call {g : Graph W} {wide : Prop} {s t : Session W} {b : Bool} (h : Moves g wide s b t) :
    t.call = { s.call with cells := t.call.cells, begun := t.call.begun } :=
  h.induct (P := fun t => t.call = { s.call with cells := t.call.cells, begun := t.call.begun })
    (fun _ _ _ hmove ht => by rw [hmove.call, ht]) rfl

theorem Moves.wanted {g : Graph W} {wide : Prop} {s t : Session W} {b : Bool} (h : Moves g wide s b t) :
    wanted g t.call = wanted g s.call := wanted_congr g (by rw [h.call])

theorem Moves.coherent {g : Graph W} {wide : Prop} {s t : Session W} {b : Bool} (h : Moves g wide s b t)
    (hs : Coherent g wide s) : Coherent g wide t := h.induct (fun _ _ _ hmove hc => hc.move hmove) hs

/-- What is kept by the moves of a coherent call is kept by chains of them. -/
theorem Moves.keeps {g : Graph W} {wide : Prop} {s t : Session W} {b : Bool} {P : Session W → Prop}
    (h : Moves g wide s b t) (hs : Coherent g wide s)
    (hmove : ∀ b t u, Coherent g wide t → Move g b t u → P t → P u) (hP : P s) : P t :=
  (h.induct (P := fun t => Coherent g wide t ∧ P t)
    (fun b t u hm ⟨hc, ht⟩ => ⟨hc.move hm, hmove b t u hc hm ht⟩) ⟨hs, hP⟩).2

theorem Turns.settled {g : Graph W} {id : String} {es : List Event} {s s' : Session W} (h : Turns g id s s')
    (halters : Alters id es s s') {x : String} {o : Outcome} (hx : s.stage x = .settled o) :
    s'.stage x = .settled o := by
  have hne : x ≠ id := by
    rintro rfl
    obtain ⟨_, _, hstage⟩ := h.evaluated
    rw [hstage] at hx
    cases hx
  exact (Session.stage_of_alters halters hne).trans hx

theorem Drops.settled {crowd : Option Nat} {s t : Session W} (h : Drops crowd s t) {x : String} {o : Outcome}
    (hx : s.stage x = .settled o) : t.stage x = .settled o := by
  rcases h.stage x with hsame | ⟨⟨_, _, heval⟩, -⟩
  · exact hsame.trans hx
  · rw [heval] at hx
    cases hx

theorem Move.settled {g : Graph W} {wide : Prop} {b : Bool} {s s' : Session W} (h : Move g b s s')
    (hs : Coherent g wide s) {x : String} {o : Outcome} (hx : s.stage x = .settled o) :
    s'.stage x = .settled o := by
  cases h with
  | rests _ _ hstage => rw [hstage x, hx]
  | notes => exact hx
  | embarks _ hstart =>
    obtain ⟨hcall, -, -⟩ := opens_start hstart
    exact (Session.stage_congr (by rw [hcall]) x).trans hx
  | @enters _ t u n asker w group _ henter hstart =>
    obtain ⟨hidle, halters, -⟩ := Session.enterCell_enters (hs.fits n.id) henter
    obtain ⟨hcall, -, -⟩ := opens_start hstart
    have hne : x ≠ n.id := by
      rintro rfl
      rw [hidle] at hx
      cases hx
    exact (Session.stage_setPhase_of_ne halters hcall asker _ hne).trans hx
  | @queues _ t c asker w _ hnode hstage hearly hsupplied hpermit =>
    have htake := s.spares_takePermit c.id w
    rw [hpermit] at htake
    have hturns := turns_setPhase htake .queued ⟨_, hstage⟩ rfl hsupplied
    exact hturns.settled ((htake.alters c.id).trans (t.alters_setPhase c.id asker _)) hx
  | fetches hunderway hwaits =>
    obtain ⟨es, t', fetch', limit', hstretch, rfl⟩ := hunderway.waits hwaits
    have hturns := turns_setPhase hstretch.spares (.fetching fetch' limit') hstretch.evaluated rfl
      (hstretch.supplied hs)
    exact hturns.settled ((hstretch.spares.alters _).trans (t'.alters_setPhase _ _ _)) hx
  | succeeds hattempted | isSpared hattempted | breaks hattempted =>
    obtain ⟨es, hstretch⟩ := hattempted.stretch
    exact (turns_settle (g := g) hstretch.spares ⟨_, hstretch.evaluated⟩ _).settled
      ((hstretch.spares.alters _).trans (Session.alters_settle _ _ _)) hx
  | @turnsOver _ t n asker e _ hattempted =>
    obtain ⟨es, hstretch⟩ := hattempted.stretch
    have hturns := turns_setPhase hstretch.spares (.recovering e) hstretch.evaluated rfl
      (hstretch.supplied hs)
    exact hturns.settled ((hstretch.spares.alters _).trans (t.alters_setPhase _ _ _)) hx
  | adopts _ _ hstage =>
    exact (turns_settle (g := g) (.refl s) ⟨_, _, hstage⟩ _).settled
      (((Spares.refl s).alters _).trans (s.alters_settle _ _)) hx
  | falls hfalls =>
    cases hfalls with
    | givesUp _ _ hstage =>
      exact (turns_settle (g := g) (.refl s) ⟨_, _, hstage⟩ _).settled
        (((Spares.refl s).alters _).trans (s.alters_settle _ _)) hx
    | @follows t n asker group d _ hstage _ _ hdrops hkept =>
      exact (turns_settle (g := g) (.refl t) ⟨_, _, hkept.trans hstage⟩ _).settled
        (((Spares.refl t).alters _).trans (t.alters_settle _ _)) (hdrops.settled hx)

/-- How a settled node stands does not change any more. -/
theorem Moves.stands {g : Graph W} {wide : Prop} {b : Bool} {s t : Session W} (h : Moves g wide s b t)
    (hs : Coherent g wide s) {x : String} (hx : s.standing x ≠ .waits) : t.standing x = s.standing x := by
  obtain ⟨o, hsettled, hstanding⟩ := Session.settled_of_standing hx
  have ht : t.stage x = .settled o :=
    h.keeps (P := fun t => t.stage x = .settled o) hs (fun _ _ _ hc hmove => hmove.settled hc) hsettled
  rw [Session.standing_of_settled ht, hstanding]

end Resolver

end AttributeRelease
