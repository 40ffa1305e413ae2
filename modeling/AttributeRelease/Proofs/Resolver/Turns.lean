import AttributeRelease.Proofs.Resolver.Traversal
import AttributeRelease.Resolver.Basic

/-!
A turn of a call is a chain of moves, after which the call waits or ends. And what a call does stays its own:
of what calls share it changes its own crowds only, it takes numbers that nobody has, and it puts down events
under its own number.
-/

namespace AttributeRelease

namespace Resolver

variable {W : Type}

/-- The call that an event belongs to. -/
def Event.call : Event → Nat
  | .computed call _ | .began call _ | .ended call _ | .gave call _ _ | .erred call _ _ | .settled call _ _ => call

/-- What stands somewhere in a log that has grown stood there before, or is new and stands above all that did. -/
theorem split_grown {es log later earlier : List Event} {e : Event} (h : es ++ log = later ++ e :: earlier) :
    (∃ between, later = es ++ between ∧ log = between ++ e :: earlier) ∨ e ∈ es ∧ log <:+ earlier := by
  rcases List.append_eq_append_iff.1 h with ⟨between, rfl, hrest⟩ | ⟨between, rfl, hrest⟩
  · exact .inl ⟨between, rfl, hrest⟩
  · cases between with
    | nil => exact .inl ⟨[], by rw [List.append_nil, List.append_nil], hrest.symm⟩
    | cons e' rest =>
      obtain ⟨rfl, rfl⟩ := List.cons.inj hrest
      exact .inr ⟨List.mem_append_right _ List.mem_cons_self, rest, rfl⟩

theorem Event.call_own (call : Nat) (id : String) (r : Except ResolutionError AttributeMap) :
    (own call id r).call = call := by
  cases r <;> rfl

/-- What a call leaves to others. -/
structure Beside (s s' : Session W) : Prop where
  number : s'.call.number = s.call.number
  clock : s'.shared.scheduler.clock = s.shared.scheduler.clock
  unused : s.shared.scheduler.unused ≤ s'.shared.scheduler.unused
  register : ∀ n, n < s.shared.scheduler.unused → (∀ holder, ¬ s.Owns holder n) →
    s'.shared.scheduler.register n = s.shared.scheduler.register n
  owns : ∀ holder n, s'.Owns holder n → (∃ holder, s.Owns holder n) ∨ s.shared.scheduler.unused ≤ n
  log : ∃ es, s'.shared.log = es ++ s.shared.log ∧ ∀ e ∈ es, e.call = s.call.number
  closed : s'.shared.permits.closed = s.shared.permits.closed

namespace Beside

variable {g : Graph W} {wide : Prop} {s t u : Session W}

theorem refl (s : Session W) : Beside s s where
  number := rfl
  clock := rfl
  unused := Nat.le_refl _
  register _ _ _ := rfl
  owns holder _ h := .inl ⟨holder, h⟩
  log := ⟨[], rfl, List.forall_mem_nil _⟩
  closed := rfl

theorem trans (h : Beside s t) (h' : Beside t u) : Beside s u where
  number := h'.number.trans h.number
  clock := h'.clock.trans h.clock
  unused := Nat.le_trans h.unused h'.unused
  register n hn hnone := by
    have hbetween : ∀ holder, ¬ t.Owns holder n := fun holder howns => by
      rcases h.owns holder n howns with ⟨holder', hold⟩ | hfresh
      · exact hnone holder' hold
      · omega
    rw [h'.register n (Nat.lt_of_lt_of_le hn h.unused) hbetween, h.register n hn hnone]
  owns holder n howns := by
    rcases h'.owns holder n howns with ⟨holder', hbetween⟩ | hfresh
    · exact h.owns holder' n hbetween
    · exact .inr (Nat.le_trans h.unused hfresh)
  log := by
    obtain ⟨es, hlog, hes⟩ := h.log
    obtain ⟨es', hlog', hes'⟩ := h'.log
    refine ⟨es' ++ es, by rw [hlog', hlog, List.append_assoc], fun e he => ?_⟩
    rcases List.mem_append.1 he with he | he
    · rw [hes' e he, h.number]
    · exact hes e he
  closed := h'.closed.trans h.closed

/-- The turn of one node. -/
theorem of_turns {id : String} {es : List Event} (halters : Alters id es s t) (hturns : Turns g id s t)
    (hes : ∀ e ∈ es, e.call = s.call.number) : Beside s t where
  number := by rw [halters.call]
  clock := halters.quiet.clock
  unused := halters.quiet.unused
  register n _ _ := halters.quiet.register n
  owns holder n := fun ⟨size, h⟩ => .inl ⟨holder, size, hturns.group? halters h⟩
  log := ⟨es, halters.log, hes⟩
  closed := halters.closed

/-- A group that starts takes a number that nobody had. -/
theorem of_opens {members : Nat} (holder : Option String) {group : Group}
    (hopens : Opens members group s.shared.scheduler t.shared.scheduler) (hnumber : t.call.number = s.call.number)
    (hgroup : t.group? holder = some group) (hothers : ∀ h, h ≠ holder → t.group? h = s.group? h)
    (hlog : t.shared.log = s.shared.log) (hclosed : t.shared.permits.closed = s.shared.permits.closed) :
    Beside s t where
  number := hnumber
  clock := hopens.clock
  unused := hopens.unused
  register n hn _ := hopens.others n fun h => by
    have := (hopens.number n h).2.1
    omega
  owns h n := fun ⟨size, hg⟩ => by
    by_cases hh : h = holder
    · rw [hh, hgroup] at hg
      exact .inr (hopens.number n (by rw [Option.some.inj hg])).2.1
    · exact .inl ⟨h, size, hothers h hh ▸ hg⟩
  log := ⟨[], hlog, List.forall_mem_nil _⟩
  closed := hclosed

theorem of_drops {crowd : Option Nat} (h : Drops crowd s t)
    (hcrowd : ∀ n, crowd = some n → ∃ holder, s.Owns holder n) : Beside s t where
  number := by rw [h.call]
  clock := h.clock
  unused := h.unused
  register n _ hnone := h.register n (fun e => by
    obtain ⟨holder, howns⟩ := hcrowd n e.symm
    exact hnone holder howns) fun holder howns => absurd howns (hnone holder)
  owns holder n howns := .inl ⟨holder, h.owns_of_owns howns⟩
  log := by
    obtain ⟨es, hlog, hes⟩ := h.log
    refine ⟨es, hlog, fun e he => ?_⟩
    obtain ⟨id, rfl⟩ := hes e he
    rfl
  closed := h.closed

theorem of_settle (g : Graph W) {es : List Event} (hspares : Spares es s t) {id : String}
    (hstage : ∃ asker phase, s.stage id = .evaluated asker phase) (hes : ∀ e ∈ es, e.call = s.call.number)
    (o : Outcome) : Beside s (t.settle id o) := by
  refine of_turns (g := g) ((hspares.alters id).trans (t.alters_settle id o)) (turns_settle hspares hstage o)
    fun e he => ?_
  rcases List.mem_append.1 he with he | he
  · rw [List.mem_singleton.1 he, Event.call, hspares.call]
  · exact hes e he

theorem of_setPhase {es : List Event} (hspares : Spares es s t) {id : String} {asker : Asker} {phase : Phase W}
    (hstage : ∃ phase, s.stage id = .evaluated asker phase) (hphase : phase.isJoining = false)
    (hsupplied : Supplied g s id) (hes : ∀ e ∈ es, e.call = s.call.number) :
    Beside s (t.setPhase id asker phase) :=
  of_turns ((hspares.alters id).trans (t.alters_setPhase id asker phase))
    (turns_setPhase hspares phase hstage hphase hsupplied) hes

end Beside

theorem Stretch.events {g : Graph W} {asker : Asker} {id : String} {es : List Event} {s t : Session W}
    (h : Stretch g asker id es s t) : ∀ e ∈ es, e.call = s.call.number := by
  intro e he
  rcases h.event he with (rfl | ⟨r, rfl⟩) | ⟨rfl | rfl, -⟩
  · rfl
  · exact Event.call_own _ _ r
  · rfl
  · rfl

/-- **What a move of a call leaves to others.** -/
theorem Move.beside {g : Graph W} {wide : Prop} {b : Bool} {s s' : Session W} (h : Move g b s s')
    (hs : Coherent g wide s) : Beside s s' := by
  cases h with
  | rests hcall hbegun hstage _ hquiet hlog hpermits =>
    refine ⟨by rw [hcall], hquiet.clock, hquiet.unused, fun n _ _ => hquiet.register n, ?_,
      ⟨[], hlog, List.forall_mem_nil _⟩,
      congrArg Gate.closed hpermits⟩
    rintro holder n ⟨size, hg⟩
    exact .inl ⟨holder, size, (Session.group?_congr hbegun fun x _ => hstage x) ▸ hg⟩
  | @notes _ k holder number howns hclock hunused hothers =>
    refine ⟨rfl, hclock, hunused, fun n _ hnone => hothers n ?_, fun h n hg => .inl ⟨h, hg⟩,
      ⟨[], rfl, List.forall_mem_nil _⟩, rfl⟩
    rintro rfl
    exact hnone holder howns
  | @embarks _ t group limit _ hstart =>
    obtain ⟨hcall, hlog, hopens⟩ := opens_start hstart
    have hpermits := permits_start hstart
    refine .of_opens none hopens (show t.call.number = _ by rw [hcall]) rfl (fun h hne => ?_) hlog
      (congrArg Gate.closed hpermits)
    cases h with
    | none => exact absurd rfl hne
    | some id => rw [Session.group?, Session.group?, ← Session.stage_congr (congrArg Call.cells hcall) id]; rfl
  | @enters _ t u n asker w group hnode henter hstart =>
    obtain ⟨-, halters, -⟩ := Session.enterCell_enters (hs.fits n.id) henter
    obtain ⟨hcall, hlog, hopens⟩ := opens_start hstart
    have hphase := u.alters_setPhase n.id asker (.joining group)
    have hself := u.stage_setPhase n.id asker (.joining group)
    refine .of_opens (some n.id) (hopens.of_quiet halters.quiet) ?_ (Session.group?_node hself)
      (fun h hne => Session.group?_congr ?_ fun x hx => ?_) (hlog.trans halters.log)
      ((congrArg Gate.closed (permits_start hstart)).trans halters.closed)
    · rw [hphase.call, hcall, halters.call]
    · rw [hphase.call, hcall, halters.call]
    · have hne' : x ≠ n.id := fun e => hne (by rw [hx, e])
      exact Session.stage_setPhase_of_ne halters hcall asker _ hne'
  | @queues _ t c asker w _ hnode hstage hearly hsupplied hpermit =>
    have htake := s.spares_takePermit c.id w
    rw [hpermit] at htake
    exact .of_setPhase htake ⟨_, hstage⟩ rfl hsupplied (List.forall_mem_nil _)
  | fetches hunderway hwaits =>
    obtain ⟨es, t', fetch', limit', hstretch, rfl⟩ := hunderway.waits hwaits
    exact .of_setPhase hstretch.spares hstretch.evaluated rfl (hstretch.supplied hs) hstretch.events
  | succeeds hattempted | isSpared hattempted | breaks hattempted =>
    obtain ⟨es, hstretch⟩ := hattempted.stretch
    exact .of_settle g hstretch.spares ⟨_, hstretch.evaluated⟩ hstretch.events _
  | turnsOver hattempted =>
    obtain ⟨es, hstretch⟩ := hattempted.stretch
    exact .of_setPhase hstretch.spares hstretch.evaluated rfl (hstretch.supplied hs) hstretch.events
  | adopts _ _ hstage => exact .of_settle g (.refl s) ⟨_, _, hstage⟩ (List.forall_mem_nil _) _
  | falls hfalls =>
    cases hfalls with
    | givesUp _ _ hstage => exact .of_settle g (.refl s) ⟨_, _, hstage⟩ (List.forall_mem_nil _) _
    | @follows t n asker group _ _ hstage _ _ hdrops hkept =>
      have hcrowd : ∀ number, group.crowd = some number → ∃ holder, s.Owns holder number := fun number hnumber =>
        ⟨some n.id, group.size, by rw [Session.group?_node hstage, ← hnumber]⟩
      exact (Beside.of_drops hdrops hcrowd).trans
        (.of_settle g (.refl t) ⟨_, _, hkept.trans hstage⟩ (List.forall_mem_nil _) _)

theorem Moves.beside {g : Graph W} {wide : Prop} {b : Bool} {s t : Session W} (h : Moves g wide s b t)
    (hs : Coherent g wide s) : Beside s t :=
  (h.induct (P := fun t => Coherent g wide t ∧ Beside s t)
    (fun _ _ _ hmove ⟨hc, hb⟩ => ⟨hc.move hmove, hb.trans (hmove.beside hc)⟩) ⟨hs, .refl s⟩).2

/-! ### Turns of a call -/

theorem Graph.mem_of_mem_roots (g : Graph W) (requested : List String) {n : Node W} (hn : n ∈ g.roots requested) :
    n ∈ g.nodes := by
  have happend : ∀ (candidates roots : List (Node W)), (∀ m ∈ candidates, m ∈ g.nodes) →
      (∀ m ∈ roots, m ∈ g.nodes) → ∀ m ∈ candidates.foldl Graph.appendNode roots, m ∈ g.nodes := by
    intro candidates
    induction candidates with
    | nil => exact fun _ _ h => h
    | cons c rest ih =>
      refine fun roots hc hroots => ih _ (fun m hm => hc m (List.mem_cons_of_mem _ hm)) fun m hm => ?_
      unfold Graph.appendNode at hm
      split at hm
      · exact hroots m hm
      · rcases List.mem_append.1 hm with hm | hm
        · exact hroots m hm
        · rw [List.mem_singleton.1 hm]
          exact hc c List.mem_cons_self
  unfold Graph.roots at hn
  split at hn
  · exact (List.mem_filter.1 hn).1
  · have hall : ∀ (keys : List String) (roots : List (Node W)), (∀ m ∈ roots, m ∈ g.nodes) →
        ∀ m ∈ keys.foldl (fun roots key => (g.nodes.filter (g.produces key)).foldl Graph.appendNode roots) roots,
          m ∈ g.nodes := by
      intro keys
      induction keys with
      | nil => exact fun _ h => h
      | cons key rest ih =>
        exact fun roots hroots => ih _ (happend _ roots (fun m hm => (List.mem_filter.1 hm).1) hroots)
    exact hall requested [] nofun n hn

theorem Graph.roots_subset (g : Graph W) (requested : List String) {id : String}
    (h : id ∈ (g.roots requested).map Node.id) : id ∈ g.nodes.map Node.id := by
  obtain ⟨n, hn, rfl⟩ := List.mem_map.1 h
  exact List.mem_map_of_mem (Graph.mem_of_mem_roots g requested hn)

/-- A call breaks off what it asks for; there is nothing if it has not begun. -/
inductive BreaksOff (r : Resolver W) (t : Session W) : Session W → Prop
  | idle (hbegun : t.group? none = none) : BreaksOff r t t
  | roots {group : Group} (hgroup : t.group? none = some group) :
    BreaksOff r t (r.breakOff (wanted r.graph t.call none) group t)

/-- How a call comes out of its turn, and whether a node has failed in it. -/
inductive Closes (r : Resolver W) : (fails : Bool) → Session W → Session W → Prop
  /-- It waits. -/
  | waits {t : Session W} : Closes r false t t
  /-- Everything that it started from is there. -/
  | returns {t : Session W} (hended : ∀ id ∈ wanted r.graph t.call none, t.standing id = .ended) :
    Closes r false t (finish (.returned (.ok (resolution (r.graph.roots t.call.requested) t))) t)
  /-- Something that it started from has failed. -/
  | breaks {t u : Session W} {b : Bool} {id : String} {crowd : Option Nat}
    (hwanted : id ∈ wanted r.graph t.call none) (hfailed : t.standing id = .failed) (hdrops : Drops crowd t u)
    (hcrowd : ∀ n, crowd = some n → ∃ holder, t.Owns holder n) (hbreaks : BreaksOff r t u) :
    Closes r b t (finish (.returned (.error (t.failure id))) u)
  /-- Its caller waits no longer. -/
  | leaves {t u : Session W} {crowd : Option Nat} (hdrops : Drops crowd t u)
    (hcrowd : ∀ n, crowd = some n → ∃ holder, t.Owns holder n) (hbreaks : BreaksOff r t u) :
    Closes r false t (finish .abandoned u)

theorem finish_effect (ending : Ending) (s : Session W) :
    (finish ending s).call = { s.call with ending := some ending } ∧
      s.shared.scheduler.Quiet (finish ending s).shared.scheduler ∧
      (finish ending s).shared.log = s.shared.log := by
  refine ⟨rfl, ?_, rfl⟩
  unfold finish
  dsimp only
  cases s.call.begun.bind Prod.snd with
  | none => exact .refl _
  | some limit => exact Scheduler.quiet_cancel _ limit

theorem beside_finish (ending : Ending) (s : Session W) : Beside s (finish ending s) := by
  obtain ⟨hcall, hquiet, hlog⟩ := finish_effect ending s
  refine ⟨by rw [hcall], hquiet.clock, hquiet.unused, fun n _ _ => hquiet.register n,
    fun holder n ⟨size, hg⟩ => .inl ⟨holder, size, ?_⟩, ⟨[], hlog, List.forall_mem_nil _⟩, rfl⟩
  rw [← hg]
  refine (Session.group?_congr (by rw [hcall]) fun id _ => ?_).symm
  exact Session.stage_congr (by rw [hcall]) id

theorem Closes.beside {r : Resolver W} {b : Bool} {t u : Session W} (h : Closes r b t u) : Beside t u := by
  cases h with
  | waits => exact .refl t
  | returns => exact beside_finish _ t
  | breaks _ _ hdrops hcrowd => exact (Beside.of_drops hdrops hcrowd).trans (beside_finish _ _)
  | leaves hdrops hcrowd => exact (Beside.of_drops hdrops hcrowd).trans (beside_finish _ _)

theorem Closes.wanted {r : Resolver W} {b : Bool} {t u : Session W} (h : Closes r b t u) :
    wanted r.graph u.call = wanted r.graph t.call := by
  cases h with
  | waits => rfl
  | returns => exact wanted_congr _ rfl
  | @breaks _ u _ _ _ _ _ hdrops =>
    exact wanted_congr _ (show u.call.requested = _ by rw [hdrops.call])
  | @leaves _ u _ hdrops => exact wanted_congr _ (show u.call.requested = _ by rw [hdrops.call])

section

variable {wide : Prop} {s : Session W}

theorem breakOff_drops (r : Resolver W) {group : Group} (hgroup : s.group? none = some group) (ids : List String) :
    Drops group.crowd s (r.breakOff ids group s) ∧
      ∀ n, group.crowd = some n → ∃ holder, s.Owns holder n := by
  obtain ⟨rank, hrank, hlt⟩ := exists_ranks r.graph
  have hmember : ∀ asker id s, id ∈ ids →
      DropsBelow rank (levels r.graph) none s (dismiss r.graph (levels r.graph) asker id s) := by
    refine fun asker id s _ => ⟨(dismiss_drops hrank _ asker id s).toDrops, fun x hx => ?_⟩
    have hx' := hlt x
    omega
  exact ⟨(DropsBelow.disband group (dismissAt_drops hmember none) s).toDrops,
    fun n hn => ⟨none, group.size, by rw [hgroup, ← hn]⟩⟩

/-- The group of a call that has begun, or that begins at this moment. -/
theorem begin_moves (wide : Prop) {g : Graph W} {group : Group} {limit : Option Alarm} {t : Session W}
    (h : begin s (g.roots s.call.requested).length = ((group, limit), t)) :
    Moves g wide s false t ∧ t.group? none = some group := by
  unfold begin at h
  cases hbegun : s.call.begun with
  | some begun =>
    rw [hbegun] at h
    cases h
    exact ⟨.refl, by rw [Session.group?, hbegun, Option.map_some]⟩
  | none =>
    rw [hbegun] at h
    dsimp only at h
    cases hstart : Group.start (g.roots s.call.requested).length s with
    | mk roots u =>
      rw [hstart] at h
      cases h
      refine ⟨.single (.embarks hbegun ?_), rfl⟩
      rw [wanted, List.length_map, hstart]

theorem isOver_moves {g : Graph W} {group : Group} (hgroup : s.group? none = some group) (limit : Option Alarm)
    (w : Waker) (before : Nat) : Move g false s (isOver group limit w before s).2 ∧
      (isOver group limit w before s).2.group? none = some group := by
  unfold isOver
  cases limit with
  | none => exact ⟨.rests rfl rfl (fun _ => rfl) (fun _ h => h) (.refl _) rfl rfl fun _ _ h => .inl h, hgroup⟩
  | some limit =>
    have hquiet := Scheduler.quiet_isOver s.shared.scheduler limit w before
    exact ⟨.rests rfl hgroup.symm (fun _ => rfl) (fun _ h => h) hquiet rfl rfl fun _ _ h => .inl h, rfl⟩

/-- **A turn of a call is a chain of moves, after which the call waits or ends.** -/
theorem goOn_closes (r : Resolver W) (w : Waker) (hs : Coherent r.graph wide s) :
    ∃ b t, Moves r.graph wide s b t ∧ Closes r b t (r.goOn w s) := by
  obtain ⟨rank, hrank, hlt⟩ := exists_ranks r.graph
  unfold goOn
  dsimp only
  cases hbegin : begin s (r.graph.roots s.call.requested).length with
  | mk begun t =>
    obtain ⟨group, limit⟩ := begun
    obtain ⟨hbegun, hgroup⟩ := begin_moves wide hbegin
    have hids : wanted r.graph t.call none = (r.graph.roots s.call.requested).map Node.id := by
      rw [hbegun.wanted, wanted]
    have hnone : ∀ id, none = some id → levels r.graph ≤ rank id := by simp
    have hknown : ∀ id ∈ (r.graph.roots s.call.requested).map Node.id,
        rank id < levels r.graph ∧ ∃ n, r.graph.node? id = some n := fun id hid =>
      ⟨hlt id, Graph.exists_node (Graph.roots_subset r.graph _ hid)⟩
    have hmembers := (ask_replies wide hrank (levels r.graph)).turnsMember
      ((r.graph.roots s.call.requested).map Node.id) hknown none
    · have hjudges := turn_judges hmembers hnone w (hbegun.coherent hs) hgroup hids
      dsimp only
      generalize group.turn (askAt (ask r.graph (levels r.graph)) none
        ((r.graph.roots s.call.requested).map Node.id)) w t = out at hjudges
      obtain ⟨verdict, u⟩ := out
      obtain ⟨⟨fails, hgoes, hfails⟩, hended, hfailed⟩ := hjudges
      have hugroup : u.group? none = some group := by rw [hgoes.group? hnone, hgroup]
      have huids : wanted r.graph u.call none = (r.graph.roots s.call.requested).map Node.id := by
        rw [hgoes.moves.wanted, hids]
      have hfalse : (∀ place, verdict ≠ .failed place) → Moves r.graph wide s false u := by
        intro hne
        cases fails with
        | false => exact hbegun.trans hgoes.moves
        | true =>
          obtain ⟨place, hplace⟩ := hfails rfl
          exact absurd hplace (hne place)
      cases verdict with
      | waits =>
        dsimp only
        obtain ⟨hover, hogroup⟩ := isOver_moves (g := r.graph) hugroup limit w s.shared.scheduler.steps
        generalize isOver group limit w s.shared.scheduler.steps u = out at hover hogroup
        obtain ⟨isOver, v⟩ := out
        have hlooks : Moves r.graph wide u false v := .single hover
        have hvids : wanted r.graph v.call none = (r.graph.roots s.call.requested).map Node.id := by
          rw [hlooks.wanted, huids]
        cases isOver with
        | false => exact ⟨false, v, .tail (hfalse (by simp)) hover, .waits⟩
        | true =>
          obtain ⟨hdrops, hcrowd⟩ := breakOff_drops r hogroup ((r.graph.roots s.call.requested).map Node.id)
          exact ⟨false, v, .tail (hfalse (by simp)) hover, .leaves hdrops hcrowd (hvids ▸ .roots hogroup)⟩
      | ended =>
        have hsettled : ∀ id ∈ wanted r.graph u.call none, u.standing id ≠ .waits := by
          intro id hid
          rw [huids] at hid
          rw [hended rfl id hid]
          decide
        obtain ⟨hclose, hstages⟩ := close_goes wide rank (levels r.graph) hugroup hsettled
        refine ⟨false, group.close u, (hfalse (by simp)).trans hclose.moves, ?_⟩
        have hcall : (group.close u).call = u.call := by
          unfold Group.close
          cases group.crowd <;> rfl
        have hrequested : (group.close u).call.requested = s.call.requested := by
          rw [hcall, hgoes.moves.call, hbegun.call]
        have hresolution : resolution (r.graph.roots s.call.requested) u =
            resolution (r.graph.roots (group.close u).call.requested) (group.close u) := by
          have hsame : ∀ v : Session W, v.call = u.call → resolution (r.graph.roots s.call.requested) v =
              resolution (r.graph.roots s.call.requested) u := by
            intro v hv
            obtain ⟨c, sh⟩ := v
            obtain rfl := hv
            rfl
          rw [hrequested, hsame _ hcall]
        dsimp only
        rw [hresolution]
        refine .returns fun id hid => ?_
        rw [hclose.moves.wanted, huids] at hid
        rw [Session.standing_eq_standing (hstages id)]
        exact hended rfl id hid
      | failed place =>
        obtain ⟨id, hplace, hidfailed⟩ := hfailed place rfl
        have hid := List.mem_of_getElem? hplace
        have hfailure : u.failureAt ((r.graph.roots s.call.requested).map Node.id) place = u.failure id := by
          rw [Session.failureAt, hplace, Option.getD_some]
        dsimp only
        rw [hfailure]
        obtain ⟨hdrops, hcrowd⟩ := breakOff_drops r hugroup ((r.graph.roots s.call.requested).map Node.id)
        exact ⟨fails, u, hbegun.trans hgoes.moves,
          .breaks (huids ▸ hid) hidfailed hdrops hcrowd (huids ▸ .roots hugroup)⟩

end

end Resolver

end AttributeRelease
