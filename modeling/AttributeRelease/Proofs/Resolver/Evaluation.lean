import AttributeRelease.Proofs.Resolver.Runs

/-!
When nodes are evaluated. A node begins to do what it is for after everything that it depends on has been
settled and is there, and it is settled once, so that all who ask for it are told the same. In a call none of
whose groups is a crowd it also begins only once: whoever breaks off the evaluation of a node does so because
the call ends in the same turn. A crowd goes on for a while after one of its members has failed, and what the
failure has broken off may begin anew.
-/

namespace AttributeRelease

namespace Resolver

variable {W : Type}

/-- Whether a node of a call begins to do what it is for: it is computed or begins to fetch. -/
def Event.starts (call : Nat) (id : String) (e : Event) : Bool :=
  e = .computed call id || e = .began call id

/-- Whether a node of a call is settled. -/
def Event.settles (call : Nat) (id : String) : Event → Bool
  | .settled call' id' _ => call' = call && id' = id
  | .computed .. | .began .. | .ended .. | .gave .. | .erred .. => false

theorem Event.call_of_starts {call : Nat} {id : String} {e : Event} (h : e.starts call id = true) :
    e.call = call := by
  simp only [starts, Bool.or_eq_true, decide_eq_true_eq] at h
  rcases h with rfl | rfl <;> rfl

theorem Event.starts_own (call call' : Nat) (id id' : String) (r : Except ResolutionError AttributeMap) :
    (own call' id' r).starts call id = false := by
  cases r <;> simp [own, starts]

theorem Event.settles_own (call call' : Nat) (id id' : String) (r : Except ResolutionError AttributeMap) :
    (own call' id' r).settles call id = false := by
  cases r <;> rfl

theorem Event.settles_iff {call : Nat} {id : String} {e : Event} :
    e.settles call id = true ↔ ∃ o, e = .settled call id o := by
  cases e <;> simp [settles]

/--
The log of a call is right: it says how each settled node was settled, it says so once, and before a node
begins all that it depends on is there. The log stands latest first.
-/
structure Recorded (g : Graph W) (c : Call W) (log : List Event) : Prop where
  outcomes : ∀ (sh : Shared W) id o, Session.outcome? ⟨c, sh⟩ id = some o ↔ .settled c.number id o ∈ log
  once : ∀ id, log.countP (Event.settles c.number id) ≤ 1
  order : ∀ later e earlier, log = later ++ e :: earlier → ∀ id, e.starts c.number id = true →
    ∀ d ∈ wanted g c (some id), ∃ o, .settled c.number d o ∈ earlier ∧ o.standing = .ended

namespace Recorded

variable {g : Graph W} {wide : Prop} {s s' t : Session W}

/-- Events that settle nothing may come on top if what they start is supplied. -/
theorem append (h : Recorded g s.call s.shared.log) (hnumber : s'.call.number = s.call.number)
    (hwanted : wanted g s'.call = wanted g s.call) (houtcomes : ∀ id, s'.outcome? id = s.outcome? id)
    {es : List Event} (hlog : s'.shared.log = es ++ s.shared.log)
    (hsettles : ∀ e ∈ es, ∀ id, e.settles s.call.number id = false)
    (hstarts : ∀ e ∈ es, ∀ id, e.starts s.call.number id = true → ∀ d ∈ wanted g s.call (some id),
      ∃ o, .settled s.call.number d o ∈ s.shared.log ∧ o.standing = .ended) :
    Recorded g s'.call s'.shared.log where
  outcomes sh id o := by
    have hsame : Session.outcome? ⟨s'.call, sh⟩ id = s.outcome? id := houtcomes id
    rw [hsame, h.outcomes s.shared id o, hlog, hnumber, List.mem_append]
    refine ⟨.inr, fun hmem => hmem.resolve_left fun he => ?_⟩
    have hfalse := hsettles _ he id
    rw [Event.settles_iff.2 ⟨o, rfl⟩] at hfalse
    cases hfalse
  once id := by
    rw [hlog, hnumber, List.countP_append, List.countP_eq_zero.2 fun e he => by rw [hsettles e he id]; exact nofun,
      Nat.zero_add]
    exact h.once id
  order later e earlier heq id hstart d hd := by
    rw [hnumber] at hstart ⊢
    rw [hwanted] at hd
    rw [hlog] at heq
    rcases split_grown heq with ⟨between, rfl, hrest⟩ | ⟨hnew, hsuffix⟩
    · exact h.order between e earlier hrest id hstart d hd
    · obtain ⟨o, ho, hended⟩ := hstarts e hnew id hstart d hd
      exact ⟨o, hsuffix.subset ho, hended⟩

/-- A node that was not settled is settled. -/
theorem settle (h : Recorded g s.call s.shared.log) {id : String} (o : Outcome)
    (hopen : s.outcome? id = none) : Recorded g (s.settle id o).call (s.settle id o).shared.log := by
  have halters := s.alters_settle id o
  have hnumber : (s.settle id o).call.number = s.call.number := by rw [halters.call]
  have hnever : ∀ e ∈ s.shared.log, e.settles s.call.number id = false := fun e he => by
    rw [Bool.eq_false_iff]
    intro hsettles
    obtain ⟨o', rfl⟩ := Event.settles_iff.1 hsettles
    rw [(h.outcomes s.shared id o').2 he] at hopen
    cases hopen
  refine ⟨fun sh x o' => ?_, fun x => ?_, fun later e earlier heq x hstart d hd => ?_⟩
  · rw [hnumber, halters.log, List.singleton_append, List.mem_cons, Event.settled.injEq]
    have hx : Session.outcome? ⟨(s.settle id o).call, sh⟩ x = (s.settle id o).outcome? x := rfl
    rw [hx]
    by_cases hxid : x = id
    · subst hxid
      rw [Session.outcome?_eq, s.stage_settle]
      refine ⟨fun ho => .inl ⟨rfl, rfl, (Option.some.inj ho).symm⟩, fun hmem => ?_⟩
      rcases hmem with ⟨-, -, rfl⟩ | hmem
      · rfl
      · have hfalse := hnever _ hmem
        rw [Event.settles_iff.2 ⟨o', rfl⟩] at hfalse
        cases hfalse
    · rw [Session.outcome?_congr (Session.stage_of_alters halters hxid)]
      refine (h.outcomes s.shared x o').trans ⟨.inr, fun hmem => hmem.resolve_left ?_⟩
      exact fun hsame => hxid hsame.2.1
  · rw [hnumber, halters.log, List.countP_append]
    by_cases hxid : x = id
    · subst hxid
      have hzero : s.shared.log.countP (Event.settles s.call.number x) = 0 :=
        List.countP_eq_zero.2 fun e he => by rw [hnever e he]; exact nofun
      rw [hzero]
      exact List.countP_le_length
    · rw [List.countP_eq_zero.2, Nat.zero_add]
      · exact h.once x
      · intro e he
        rw [List.mem_singleton.1 he]
        simp [Event.settles, Ne.symm hxid]
  · rw [hnumber] at hstart ⊢
    have hwanted : wanted g (s.settle id o).call = wanted g s.call := wanted_congr g (by rw [halters.call])
    rw [hwanted] at hd
    rw [halters.log, List.singleton_append] at heq
    cases later with
    | nil =>
      obtain ⟨rfl, rfl⟩ := List.cons.inj heq
      simp [Event.starts] at hstart
    | cons e' rest =>
      obtain ⟨-, hrest⟩ := List.cons.inj heq
      exact h.order rest e earlier hrest x hstart d hd

/-- Who has all that it depends on has it put down. -/
theorem supplied (h : Recorded g s.call s.shared.log) {id : String} (hsupplied : Supplied g s id) :
    ∀ d ∈ wanted g s.call (some id), ∃ o, .settled s.call.number d o ∈ s.shared.log ∧ o.standing = .ended := by
  intro d hd
  obtain ⟨o, hsettled, hstanding⟩ := Session.settled_of_ended (hsupplied d hd)
  exact ⟨o, (h.outcomes s.shared d o).1 (Session.outcome?_eq_some_iff.2 hsettled), hstanding⟩

theorem of_same (h : Recorded g s.call s.shared.log) (hcall : s'.call.number = s.call.number)
    (hwanted : wanted g s'.call = wanted g s.call) (houtcomes : ∀ id, s'.outcome? id = s.outcome? id)
    (hlog : s'.shared.log = s.shared.log) : Recorded g s'.call s'.shared.log :=
  have hlog' : s'.shared.log = [] ++ s.shared.log := hlog
  h.append hcall hwanted houtcomes hlog' (List.forall_mem_nil _) (List.forall_mem_nil _)

theorem of_stages (h : Recorded g s.call s.shared.log) (hcall : s'.call.number = s.call.number)
    (hwanted : wanted g s'.call = wanted g s.call) (hstage : ∀ x, s'.stage x = s.stage x)
    (hlog : s'.shared.log = s.shared.log) : Recorded g s'.call s'.shared.log :=
  h.of_same hcall hwanted (fun id => by rw [Session.outcome?_eq, Session.outcome?_eq, hstage]) hlog

/-- The evaluation of a node is put down anew. -/
theorem setPhase (h : Recorded g s.call s.shared.log) {id : String} {asker : Asker} (phase : Phase W)
    (hopen : s.outcome? id = none) :
    Recorded g (s.setPhase id asker phase).call (s.setPhase id asker phase).shared.log := by
  have halters := s.alters_setPhase id asker phase
  refine h.of_same (by rw [halters.call]) (wanted_congr g (by rw [halters.call])) (fun x => ?_) halters.log
  by_cases hx : x = id
  · subst hx
    rw [hopen, Session.outcome?_eq, s.stage_setPhase]
  · exact Session.outcome?_congr (Session.stage_of_alters halters hx)

theorem stretch (h : Recorded g s.call s.shared.log) {asker : Asker} {id : String} {es : List Event}
    (hstretch : Stretch g asker id es s t) : Recorded g t.call t.shared.log ∧ t.outcome? id = none := by
  have hspares := hstretch.spares
  have houtcomes : ∀ x, t.outcome? x = s.outcome? x := fun x =>
    Session.outcome?_congr (Session.stage_of_spares hspares x)
  refine ⟨h.append (by rw [hspares.call]) (by rw [hspares.call]) houtcomes hspares.log (fun e he x => ?_)
    fun e he x hstart => ?_, ?_⟩
  · rcases hstretch.event he with (rfl | ⟨r, rfl⟩) | ⟨rfl | rfl, -⟩
    · rfl
    · exact Event.settles_own _ _ _ _ r
    · rfl
    · rfl
  · rcases hstretch.event he with (rfl | ⟨r, rfl⟩) | ⟨hbegins, hsupplied⟩
    · simp [Event.starts] at hstart
    · rw [Event.starts_own] at hstart
      cases hstart
    · have hx : x = id := by rcases hbegins with rfl | rfl <;> simpa [Event.starts, eq_comm] using hstart
      exact hx ▸ h.supplied hsupplied
  · obtain ⟨phase, hstage⟩ := hstretch.evaluated
    rw [houtcomes, Session.outcome?_eq, hstage]

theorem drops (h : Recorded g s.call s.shared.log) {crowd : Option Nat} (hdrops : Drops crowd s t) :
    Recorded g t.call t.shared.log := by
  obtain ⟨es, hlog, hes⟩ := hdrops.log
  refine h.append (by rw [hdrops.call]) (wanted_congr g (by rw [hdrops.call])) (fun x => ?_) hlog
    (fun e he x => ?_) fun e he x hstart => ?_
  · rcases hdrops.stage x with hsame | ⟨⟨_, _, heval⟩, hidle⟩
    · rw [Session.outcome?_eq, Session.outcome?_eq, hsame]
    · rw [Session.outcome?_eq, Session.outcome?_eq, heval, hidle]
  · obtain ⟨id, rfl⟩ := hes e he
    rfl
  · obtain ⟨id, rfl⟩ := hes e he
    simp [Event.starts] at hstart

theorem open_of_evaluated {id : String} {asker : Asker} {phase : Phase W}
    (hstage : s.stage id = .evaluated asker phase) : s.outcome? id = none := by
  rw [Session.outcome?_eq, hstage]

/-- **Every move keeps the log right.** -/
theorem move (h : Recorded g s.call s.shared.log) (hs : Coherent g wide s) {b : Bool} (hmove : Move g b s s') :
    Recorded g s'.call s'.shared.log := by
  have hcall := hmove.call
  have hwanted : wanted g s'.call = wanted g s.call := wanted_congr g (by rw [hcall])
  cases hmove with
  | rests _ _ hstage _ _ hlog => exact h.of_stages (by rw [hcall]) hwanted hstage hlog
  | notes => exact h
  | embarks _ hstart =>
    obtain ⟨hstarted, hlog, -⟩ := opens_start hstart
    exact h.of_stages (by rw [hcall]) hwanted (fun x => Session.stage_congr (congrArg Call.cells hstarted) x) hlog
  | @enters _ t u n asker w group _ henter hstart =>
    obtain ⟨hidle, halters, -⟩ := Session.enterCell_enters (hs.fits n.id) henter
    obtain ⟨hstarted, hlog, -⟩ := opens_start hstart
    have hphase := u.alters_setPhase n.id asker (.joining group)
    refine h.of_same (by rw [hcall]) hwanted (fun x => ?_) (hphase.log.trans (hlog.trans halters.log))
    by_cases hx : x = n.id
    · subst hx
      rw [Session.outcome?_eq, u.stage_setPhase, Session.outcome?_eq, hidle]
    · exact Session.outcome?_congr (Session.stage_setPhase_of_ne halters hstarted asker _ hx)
  | @queues _ t c asker w phase _ hstage _ _ hpermit =>
    have htake := s.spares_takePermit c.id w
    rw [hpermit] at htake
    have ht : Recorded g t.call t.shared.log :=
      h.of_stages (by rw [htake.call]) (by rw [htake.call])
        (Session.stage_of_spares htake) htake.log
    have hkept : t.stage c.id = .evaluated asker phase := (Session.stage_of_spares htake c.id).trans hstage
    exact ht.setPhase _ (open_of_evaluated hkept)
  | fetches hunderway hwaits =>
    obtain ⟨es, t', fetch', limit', hstretch, rfl⟩ := hunderway.waits hwaits
    obtain ⟨ht, hopen⟩ := h.stretch hstretch
    exact ht.setPhase _ hopen
  | succeeds hattempted | isSpared hattempted | breaks hattempted =>
    obtain ⟨es, hstretch⟩ := hattempted.stretch
    obtain ⟨ht, hopen⟩ := h.stretch hstretch
    exact ht.settle _ hopen
  | turnsOver hattempted =>
    obtain ⟨es, hstretch⟩ := hattempted.stretch
    obtain ⟨ht, hopen⟩ := h.stretch hstretch
    exact ht.setPhase _ hopen
  | adopts _ _ hstage => exact h.settle _ (open_of_evaluated hstage)
  | falls hfalls =>
    cases hfalls with
    | givesUp _ _ hstage => exact h.settle _ (open_of_evaluated hstage)
    | follows _ hstage _ _ hdrops hkept => exact (h.drops hdrops).settle _ (open_of_evaluated (hkept.trans hstage))

end Recorded

/-! ### Nodes begin once -/

/-- Whether a node has not begun to do what it is for. -/
def Stage.isEarly : Stage W → Bool
  | .idle => true
  | .evaluated _ phase => phase.isEarly
  | .settled _ => false

/-- No node of the call has begun more often. -/
def StartsAtMost (m : Nat) (s : Session W) : Prop :=
  ∀ id, s.shared.log.countP (Event.starts s.call.number id) ≤ m

/-- Every node of the call has begun at most once. -/
def StartsOnce (s : Session W) : Prop := StartsAtMost 1 s

/-- Nodes have begun so many times at most, and once more if they are at it or done with it. -/
structure Calm (m : Nat) (s : Session W) : Prop where
  starts : StartsAtMost (m + 1) s
  early : ∀ id, (s.stage id).isEarly = true → s.shared.log.countP (Event.starts s.call.number id) ≤ m

section

variable {g : Graph W} {wide : Prop} {s s' t : Session W} {m : Nat}

theorem countP_starts_of_log {es : List Event} (hcall : t.call.number = s.call.number)
    (hlog : t.shared.log = es ++ s.shared.log) {id : String}
    (hes : ∀ e ∈ es, e.starts s.call.number id = false) :
    t.shared.log.countP (Event.starts t.call.number id) =
      s.shared.log.countP (Event.starts s.call.number id) := by
  rw [hcall, hlog, List.countP_append, List.countP_eq_zero.2 fun e he => by rw [hes e he]; exact nofun,
    Nat.zero_add]

theorem StartsAtMost.of_log (h : StartsAtMost m s) {es : List Event} (hcall : t.call.number = s.call.number)
    (hlog : t.shared.log = es ++ s.shared.log) (hes : ∀ e ∈ es, ∀ id, e.starts s.call.number id = false) :
    StartsAtMost m t := fun id => by
  rw [countP_starts_of_log hcall hlog fun e he => hes e he id]
  exact h id

theorem StartsAtMost.settle (h : StartsAtMost m s) (id : String) (o : Outcome) : StartsAtMost m (s.settle id o) := by
  have halters := s.alters_settle id o
  refine h.of_log (by rw [halters.call]) halters.log fun e he x => ?_
  rw [List.mem_singleton.1 he]
  simp [Event.starts]

theorem StartsAtMost.drops (h : StartsAtMost m s) {crowd : Option Nat} (hdrops : Drops crowd s t) :
    StartsAtMost m t := by
  obtain ⟨es, hlog, hes⟩ := hdrops.log
  refine h.of_log (by rw [hdrops.call]) hlog fun e he x => ?_
  obtain ⟨id, rfl⟩ := hes e he
  simp [Event.starts]

/-- Who only fails with others does not begin. -/
theorem StartsAtMost.falls (h : StartsAtMost m s) (hfalls : Falls g s s') : StartsAtMost m s' := by
  cases hfalls with
  | givesUp => exact h.settle _ _
  | follows _ _ _ _ hdrops => exact (h.drops hdrops).settle _ _

namespace Calm

theorem mono (h : Calm m s) {m' : Nat} (hle : m ≤ m') : Calm m' s :=
  ⟨fun id => (h.starts id).trans (Nat.succ_le_succ hle), fun id hearly => (h.early id hearly).trans hle⟩

/-- Nothing begins, and nobody goes back. -/
theorem of_stages (h : Calm m s) (hcall : s'.call.number = s.call.number) (hlog : s'.shared.log = s.shared.log)
    (hstage : ∀ x, (s'.stage x).isEarly = true → (s.stage x).isEarly = true) : Calm m s' := by
  have hcount : ∀ x, s'.shared.log.countP (Event.starts s'.call.number x) =
      s.shared.log.countP (Event.starts s.call.number x) := fun x => by rw [hcall, hlog]
  exact ⟨fun x => hcount x ▸ h.starts x, fun x hx => hcount x ▸ h.early x (hstage x hx)⟩

/-- A node begins, if it had not begun, and the others do not. -/
theorem stretch (h : Calm m s) {asker : Asker} {id : String} {es : List Event}
    (hstretch : Stretch g asker id es s t) : StartsAtMost (m + 1) t ∧ ∀ x, x ≠ id → (t.stage x).isEarly = true →
      t.shared.log.countP (Event.starts t.call.number x) ≤ m := by
  have hspares := hstretch.spares
  have hothers : ∀ x, x ≠ id → ∀ e ∈ es, e.starts s.call.number x = false := by
    intro x hx e he
    rcases hstretch.event he with (rfl | ⟨r, rfl⟩) | ⟨rfl | rfl, -⟩
    · rfl
    · exact Event.starts_own _ _ _ _ r
    · simp [Event.starts, Ne.symm hx]
    · simp [Event.starts, Ne.symm hx]
  refine ⟨fun x => ?_, fun x hx hearly => ?_⟩
  · by_cases hx : x = id
    · subst hx
      rw [hspares.call, hspares.log, List.countP_append]
      cases hstretch with
      | early hstage hearly _ _ hes =>
        have hbefore := h.early x (by rw [hstage]; exact hearly)
        have hnew : es.countP (Event.starts s.call.number x) ≤ 1 := by
          rcases hes with ⟨r, rfl⟩ | rfl | ⟨r, rfl⟩ <;>
            simp only [List.countP_cons, List.countP_nil, Event.starts_own] <;> simp [Event.starts]
        omega
      | late _ _ hes =>
        have hbefore := h.starts x
        rcases hes with rfl | ⟨r, rfl⟩
        · simpa using hbefore
        · rw [List.countP_cons, List.countP_cons, List.countP_nil, Event.starts_own]
          simpa [Event.starts] using hbefore
    · rw [countP_starts_of_log (by rw [hspares.call]) hspares.log (hothers x hx)]
      exact h.starts x
  · rw [Session.stage_of_spares hspares] at hearly
    rw [countP_starts_of_log (by rw [hspares.call]) hspares.log (hothers x hx)]
    exact h.early x hearly

theorem setPhase (hstarts : StartsAtMost (m + 1) t) {id : String}
    (hothers : ∀ x, x ≠ id → (t.stage x).isEarly = true →
      t.shared.log.countP (Event.starts t.call.number x) ≤ m) {asker : Asker} {phase : Phase W}
    (hphase : phase.isEarly = false) : Calm m (t.setPhase id asker phase) := by
  have halters := t.alters_setPhase id asker phase
  refine ⟨fun x => hstarts x, fun x hx => ?_⟩
  by_cases hxid : x = id
  · subst hxid
    rw [t.stage_setPhase, Stage.isEarly, hphase] at hx
    cases hx
  · rw [Session.stage_of_alters halters hxid] at hx
    exact hothers x hxid hx

theorem settle (hstarts : StartsAtMost (m + 1) t) {id : String}
    (hothers : ∀ x, x ≠ id → (t.stage x).isEarly = true →
      t.shared.log.countP (Event.starts t.call.number x) ≤ m) (o : Outcome) : Calm m (t.settle id o) := by
  have halters := t.alters_settle id o
  refine ⟨hstarts.settle id o, fun x hx => ?_⟩
  by_cases hxid : x = id
  · subst hxid
    rw [t.stage_settle] at hx
    cases hx
  · rw [Session.stage_of_alters halters hxid] at hx
    rw [countP_starts_of_log (by rw [halters.call]) halters.log fun e he => by
      rw [List.mem_singleton.1 he]; simp [Event.starts]]
    exact hothers x hxid hx

/-- **A move after which no node has failed keeps a call calm.** -/
theorem move (h : Calm m s) (hs : Coherent g wide s) (hmove : Move g false s s') : Calm m s' := by
  have hcall : s'.call.number = s.call.number := by rw [hmove.call]
  cases hmove with
  | rests _ _ hstage _ _ hlog => exact h.of_stages hcall hlog fun x hx => hstage x ▸ hx
  | notes => exact ⟨h.starts, h.early⟩
  | embarks _ hstart =>
    obtain ⟨hstarted, hlog, -⟩ := opens_start hstart
    exact h.of_stages hcall hlog fun x hx => Session.stage_congr (congrArg Call.cells hstarted) x ▸ hx
  | @enters _ t u n asker w group _ henter hstart =>
    obtain ⟨hidle, halters, -⟩ := Session.enterCell_enters (hs.fits n.id) henter
    obtain ⟨hstarted, hlog, -⟩ := opens_start hstart
    have hphase := u.alters_setPhase n.id asker (.joining group)
    refine h.of_stages hcall (hphase.log.trans (hlog.trans halters.log)) fun x hx => ?_
    by_cases hxn : x = n.id
    · rw [hxn, hidle]
      rfl
    · exact Session.stage_setPhase_of_ne halters hstarted asker _ hxn ▸ hx
  | @queues _ t c asker w phase _ hstage hearly _ hpermit =>
    have htake := s.spares_takePermit c.id w
    rw [hpermit] at htake
    have hphase := t.alters_setPhase c.id asker .queued
    refine h.of_stages hcall (hphase.log.trans htake.log) fun x hx => ?_
    by_cases hxc : x = c.id
    · rw [hxc, hstage]
      exact hearly
    · exact Session.stage_setPhase_of_ne (htake.alters c.id) rfl asker _ hxc ▸ hx
  | fetches hunderway hwaits =>
    obtain ⟨es, t', fetch', limit', hstretch, rfl⟩ := hunderway.waits hwaits
    obtain ⟨hstarts, hothers⟩ := h.stretch hstretch
    exact setPhase hstarts hothers rfl
  | succeeds hattempted | isSpared hattempted =>
    obtain ⟨es, hstretch⟩ := hattempted.stretch
    obtain ⟨hstarts, hothers⟩ := h.stretch hstretch
    exact settle hstarts hothers _
  | turnsOver hattempted =>
    obtain ⟨es, hstretch⟩ := hattempted.stretch
    obtain ⟨hstarts, hothers⟩ := h.stretch hstretch
    exact setPhase hstarts hothers rfl
  | adopts => exact settle h.starts (fun x _ => h.early x) _

/-- And nothing begins when one fails. -/
theorem fall (h : Calm m s) (hmove : Move g true s s') : StartsAtMost (m + 1) s' := by
  cases hmove with
  | breaks hattempted =>
    obtain ⟨es, hstretch⟩ := hattempted.stretch
    exact (h.stretch hstretch).1.settle _ _
  | falls hfalls => exact h.starts.falls hfalls

end Calm

/-- In a call without crowds nothing begins after a node has failed. -/
theorem Calm.moves (h : Calm m s) (hs : Coherent g wide s) (hwide : ¬ wide) {b : Bool}
    (hmoves : Moves g wide s b t) : StartsAtMost (m + 1) t ∧ (b = false → Calm m t) := by
  induction hmoves with
  | refl => exact ⟨h.starts, fun _ => h⟩
  | tail hmoves hmove ih =>
    have hcalm := (ih.2 rfl).move (hmoves.coherent hs) hmove
    exact ⟨hcalm.starts, fun _ => hcalm⟩
  | fall _ hmove ih => exact ⟨(ih.2 rfl).fall hmove, nofun⟩
  | follow _ hfalls ih => exact ⟨ih.1.falls hfalls, nofun⟩
  | slack _ ih => exact ⟨ih.1, nofun⟩
  | resume hcrowd => exact absurd hcrowd hwide

end

theorem Recorded.kept (r : Resolver W) (passes : Call W → Nat → Prop) :
    Kept r passes fun c sh => Recorded r.graph c sh.log where
  starts c sh hfresh hnew := by
    have hnone : ∀ (sh : Shared W) id, Session.outcome? ⟨c, sh⟩ id = none := fun sh id => by
      rw [Session.outcome?_eq, hfresh.stage]
    refine ⟨fun sh' id o => ?_, fun id => ?_, fun later e earlier heq id hstart => ?_⟩
    · rw [hnone]
      refine ⟨nofun, fun hmem => absurd rfl (hnew _ hmem)⟩
    · rw [List.countP_eq_zero.2]
      · exact Nat.zero_le 1
      · intro e he hsettles
        obtain ⟨o, rfl⟩ := Event.settles_iff.1 hsettles
        exact hnew _ he rfl
    · refine absurd (Event.call_of_starts hstart) (hnew e ?_)
      rw [heq]
      exact List.mem_append_right _ List.mem_cons_self
  turns s b t u _ hs h hmoves hcloses := by
    have ht : Recorded r.graph t.call t.shared.log :=
      hmoves.keeps (P := fun t => Recorded r.graph t.call t.shared.log) hs
        (fun _ _ _ hc hmove hr => hr.move hc hmove) h
    have hfinish : ∀ {v : Session W} (ending : Ending), Recorded r.graph v.call v.shared.log →
        Recorded r.graph (finish ending v).call (finish ending v).shared.log := fun ending hv =>
      hv.of_stages rfl (wanted_congr _ rfl) (fun _ => rfl) rfl
    cases hcloses with
    | waits => exact ht
    | returns => exact hfinish _ ht
    | breaks _ _ hdrops => exact hfinish _ (ht.drops hdrops)
    | leaves hdrops => exact hfinish _ (ht.drops hdrops)
  elsewhere c sh sh' helse _ h := by
    obtain ⟨es, hlog, hes⟩ := helse.log
    have hbefore : Recorded r.graph (Session.call ⟨c, sh⟩) (Session.shared ⟨c, sh⟩).log := h
    change Recorded r.graph (Session.call ⟨c, sh'⟩) (Session.shared ⟨c, sh'⟩).log
    refine hbefore.append rfl rfl (fun _ => rfl) hlog (fun e he id => ?_)
      fun e he id hstart => absurd (Event.call_of_starts hstart) (hes e he)
    rw [Bool.eq_false_iff]
    intro hsettles
    obtain ⟨o, rfl⟩ := Event.settles_iff.1 hsettles
    exact hes _ he rfl

/-- Nothing begins in a call while it has no turn. -/
theorem Elsewhere.countP_starts {c : Call W} {sh sh' : Shared W} (h : Elsewhere c sh sh') (id : String) :
    sh'.log.countP (Event.starts c.number id) = sh.log.countP (Event.starts c.number id) := by
  obtain ⟨es, hlog, hes⟩ := h.log
  refine countP_starts_of_log (s := ⟨c, sh⟩) (t := ⟨c, sh'⟩) rfl hlog fun e he => ?_
  rw [Bool.eq_false_iff]
  exact fun hstart => hes e he (Event.call_of_starts hstart)

theorem StartsAtMost.elsewhere {c : Call W} {sh sh' : Shared W} {m : Nat} (h : StartsAtMost m ⟨c, sh⟩)
    (helse : Elsewhere c sh sh') : StartsAtMost m ⟨c, sh'⟩ := fun id => (helse.countP_starts id).trans_le (h id)

theorem Calm.elsewhere {c : Call W} {sh sh' : Shared W} {m : Nat} (h : Calm m ⟨c, sh⟩) (helse : Elsewhere c sh sh') :
    Calm m ⟨c, sh'⟩ :=
  ⟨h.starts.elsewhere helse, fun id hearly => (helse.countP_starts id).trans_le (h.early id hearly)⟩

/-- A call is calm before anything of it is put down. -/
theorem Calm.of_new {c : Call W} {sh : Shared W} (hnew : ∀ e ∈ sh.log, e.call ≠ c.number) (m : Nat) :
    Calm m ⟨c, sh⟩ := by
  have hzero : ∀ id, sh.log.countP (Event.starts c.number id) = 0 := fun id =>
    List.countP_eq_zero.2 fun e he hstart => hnew e he (Event.call_of_starts hstart)
  exact ⟨fun id => (hzero id).trans_le (Nat.zero_le _), fun id _ => (hzero id).trans_le (Nat.zero_le m)⟩

theorem StartsAtMost.finish {s : Session W} {m : Nat} (h : StartsAtMost m s) (ending : Ending) :
    StartsAtMost m (Resolver.finish ending s) :=
  h.of_log rfl (List.nil_append _).symm (List.forall_mem_nil _)

/-- Nothing begins when a turn closes. -/
theorem StartsAtMost.closes {r : Resolver W} {s t : Session W} {b : Bool} {m : Nat} (h : StartsAtMost m s)
    (hcloses : Closes r b s t) : StartsAtMost m t := by
  cases hcloses with
  | waits => exact h
  | returns => exact h.finish _
  | breaks _ _ hdrops => exact (h.drops hdrops).finish _
  | leaves hdrops => exact (h.drops hdrops).finish _

theorem Calm.kept (r : Resolver W) (passes : Call W → Nat → Prop) :
    Kept r passes fun c sh => ¬ Wide r.graph c → StartsOnce ⟨c, sh⟩ ∧ (c.ending = none → Calm 0 ⟨c, sh⟩) where
  starts c sh _ hnew _ := ⟨(Calm.of_new hnew 0).starts, fun _ => .of_new hnew 0⟩
  turns s b t u hending hs h hmoves hcloses hnarrow := by
    rw [Wide.congr (hcloses.wanted.trans hmoves.wanted)] at hnarrow
    obtain ⟨honce, hcalm⟩ := ((h hnarrow).2 hending).moves hs hnarrow hmoves
    refine ⟨honce.closes hcloses, fun hopen => ?_⟩
    cases hcloses with
    | waits => exact hcalm rfl
    | returns | breaks | leaves => cases hopen
  elsewhere c sh sh' helse _ h hnarrow := by
    obtain ⟨honce, hcalm⟩ := h hnarrow
    exact ⟨honce.elsewhere helse, fun hending => (hcalm hending).elsewhere helse⟩

/-- A node of a call is evaluated once, and after what it depends on. -/
structure EvaluatesOnce (r : Resolver W) (c : Call W) (log : List Event) : Prop where
  /-- Before a node begins all that it depends on was settled, and none of it has failed. -/
  order : ∀ later e earlier, log = later ++ e :: earlier → ∀ n, r.graph.node? n.id = some n →
    e.starts c.number n.id = true → ∀ d ∈ n.dependencies,
      ∃ o, .settled c.number d.node o ∈ earlier ∧ o.standing ≠ .failed
  /-- A node is settled once. -/
  settled : ∀ id, log.countP (Event.settles c.number id) ≤ 1
  /-- If nothing asks for more than are given turns in order, a node begins once. -/
  once : (r.graph.roots c.requested).length ≤ Group.maxInOrder →
    (∀ n ∈ r.graph.nodes, n.dependencies.length ≤ Group.maxInOrder) →
    ∀ id, log.countP (Event.starts c.number id) ≤ 1

theorem not_wide {g : Graph W} {c : Call W} (hroots : (g.roots c.requested).length ≤ Group.maxInOrder)
    (hnodes : ∀ n ∈ g.nodes, n.dependencies.length ≤ Group.maxInOrder) : ¬ Wide g c := by
  rintro ⟨holder, hlt⟩
  refine absurd hlt (Nat.not_lt.2 ?_)
  cases holder with
  | none =>
    rw [wanted, List.length_map]
    exact hroots
  | some id =>
    rw [wanted]
    cases hn : g.node? id with
    | none => exact Nat.zero_le _
    | some n =>
      rw [Option.elim_some, List.length_map]
      exact hnodes n (Graph.findNode_some hn).1

/-- What is put down of a call that can be come to tells of one evaluation of each node. -/
theorem Reachable.evaluatesOnce {r : Resolver W} {passes : Call W → Nat → Prop} {s : Sessions W} {c : Call W}
    (hs : Reachable r passes s) (hc : c ∈ s.calls) : EvaluatesOnce r c s.shared.log := by
  have hrecorded := (hs.kept (Recorded.kept r passes)).2 c hc
  have hcalm := (hs.kept (Calm.kept r passes)).2 c hc
  refine ⟨fun later e earlier heq n hn hstart d hd => ?_, hrecorded.once,
    fun hroots hnodes => (hcalm (not_wide hroots hnodes)).1⟩
  have hwanted : d.node ∈ wanted r.graph c (some n.id) := by
    rw [wanted_node c hn]
    exact List.mem_map_of_mem hd
  obtain ⟨o, hmem, hended⟩ := hrecorded.order later e earlier heq n.id hstart d.node hwanted
  exact ⟨o, hmem, by rw [hended]; exact nofun⟩

/-- What a node was settled with stays, and is put down. -/
theorem Reachable.outcome? {r : Resolver W} {passes : Call W → Nat → Prop} {s s' : Sessions W} {c c' : Call W}
    (hs : Reachable r passes s) (hlater : Relation.ReflTransGen (Step r passes) s s') (hc : c ∈ s.calls)
    (hc' : c' ∈ s'.calls) (hsame : c'.number = c.number) {id : String} {o : Outcome}
    (ho : Session.outcome? ⟨c, s.shared⟩ id = some o) : Session.outcome? ⟨c', s'.shared⟩ id = some o := by
  obtain ⟨hs', hsuffix⟩ := hs.log hlater
  have hrecorded := (hs.kept (Recorded.kept r passes)).2 c hc
  have hrecorded' := (hs'.kept (Recorded.kept r passes)).2 c' hc'
  rw [hrecorded'.outcomes, hsame]
  exact hsuffix.subset ((hrecorded.outcomes s.shared id o).1 ho)

/--
**Evaluation.** In every run of the calls of a resolver, whatever the connectors do and however the calls end,
each node of each call is evaluated once and after what it depends on, and what it was settled with is what
all see from then on.
-/
theorem evaluates_once {r : Resolver W} {passes : Call W → Nat → Prop} {s s' : Sessions W} {c c' : Call W}
    (hs : Reachable r passes s) (hlater : Relation.ReflTransGen (Step r passes) s s') (hc : c ∈ s.calls)
    (hc' : c' ∈ s'.calls) (hsame : c'.number = c.number) :
    EvaluatesOnce r c s.shared.log ∧
      ∀ id o, Session.outcome? ⟨c, s.shared⟩ id = some o → Session.outcome? ⟨c', s'.shared⟩ id = some o :=
  ⟨hs.evaluatesOnce hc, fun _ _ ho => hs.outcome? hlater hc hc' hsame ho⟩

/-- The small run is one of them, and both of its nodes begin. -/
theorem evaluates_once_of_sample : ∃ c ∈ Sample.ended.calls,
    (∀ id ∈ ["directory", "mail"], Sample.ended.shared.log.countP (Event.starts c.number id) = 1) ∧
      EvaluatesOnce Sample.resolver c Sample.ended.shared.log := by
  have hreachable : Reachable Sample.resolver (fun _ _ => True) Sample.ended :=
    Sample.reachable_ended fun _ _ => trivial
  refine ⟨Sample.ended.calls[0], List.getElem_mem _, by decide, ?_⟩
  exact (evaluates_once hreachable .refl (List.getElem_mem _) (List.getElem_mem _) rfl).1

end Resolver

end AttributeRelease
