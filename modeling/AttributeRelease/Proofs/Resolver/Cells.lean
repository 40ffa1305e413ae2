import AttributeRelease.Proofs.Activity.Crowds
import AttributeRelease.Proofs.Activity.Gates
import AttributeRelease.Resolver.Pursuit

/-!
What each step of an evaluation changes in the state of a call. Most steps touch the cell of one node and
nothing else that outlasts a turn: the other cells, the clock and the registers of all crowds stay as they
are, and the log only grows. The gate of a cell fits how far its node has come, so that nobody enters the
cell of a node that is evaluated or settled.
-/

namespace AttributeRelease

namespace Resolver

variable {W : Type}

/--
The gate is in order. The gate of a node that nobody evaluates has room for one, or has given it to one; while the
node is evaluated there is none, and the one for whom it is evaluated does not wait; once it is settled the gate
is closed.
-/
def Cell.Fits (c : Cell W) : Prop :=
  c.gate.Orderly ∧
    match c.stage with
    | .idle => c.gate.closed = false ∧ c.gate.room = 1
    | .evaluated asker _ => c.gate.closed = false ∧ c.gate.room = 0 ∧ asker ∉ c.gate.waiting
    | .settled _ => c.gate.closed = true ∧ c.gate.granted = []

namespace Cell

variable {c : Cell W} {asker : Asker} {phase : Phase W}

theorem fits_default : ({} : Cell W).Fits := ⟨⟨List.nodup_nil, fun hne => absurd rfl hne⟩, rfl, rfl⟩

theorem Fits.evaluated (h : c.Fits) (hstage : c.stage = .evaluated asker phase) :
    c.gate.Orderly ∧ c.gate.closed = false ∧ c.gate.room = 0 ∧ asker ∉ c.gate.waiting := by
  rw [Fits, hstage] at h
  exact h

theorem fits_evaluated (gate : Gate Asker) (horderly : gate.Orderly) (hclosed : gate.closed = false)
    (hroom : gate.room = 0) (hasker : asker ∉ gate.waiting) : Fits (⟨gate, .evaluated asker phase⟩ : Cell W) :=
  ⟨horderly, hclosed, hroom, hasker⟩

/-- Whoever goes in leaves no room behind, and has found the node idle. -/
theorem Fits.enters (h : c.Fits) {w : Waker} {gate : Gate Asker} (hattempt : c.gate.Attempt asker w .enters gate) :
    c.stage = .idle ∧ ∀ phase, Fits (⟨gate, .evaluated asker phase⟩ : Cell W) := by
  obtain ⟨gate₀, stage⟩ := c
  obtain ⟨horderly, hstage⟩ := h
  have hroom := hattempt.room
  rw [if_pos rfl] at hroom
  cases stage with
  | idle =>
    obtain ⟨hclosed, hone⟩ := hstage
    refine ⟨rfl, fun phase => fits_evaluated gate (hattempt.orderly horderly) (hattempt.closed.trans hclosed) ?_
      (hattempt.not_mem_waiting horderly.nodup)⟩
    dsimp only at hone hroom
    omega
  | evaluated first phase =>
    obtain ⟨-, hzero, -⟩ := hstage
    dsimp only at hzero hroom
    omega
  | settled o =>
    obtain ⟨hclosed, hgranted⟩ := hstage
    cases hattempt with
    | comes hmem => exact absurd hmem (hgranted ▸ List.not_mem_nil)
    | finds _ hopen => exact absurd (hopen.symm.trans hclosed) Bool.false_ne_true

/-- Whoever does not go in changes nothing about the room, unless it is the one for whom the node is evaluated. -/
theorem Fits.waits (h : c.Fits) {w : Waker} {passage : Gate.Passage} {gate : Gate Asker}
    (hattempt : c.gate.Attempt asker w passage gate) (hpassage : passage ≠ .enters)
    (hother : ∀ phase, c.stage ≠ .evaluated asker phase) : Fits ⟨gate, c.stage⟩ := by
  obtain ⟨gate₀, stage⟩ := c
  obtain ⟨horderly, hstage⟩ := h
  have hroom := hattempt.room
  rw [if_neg hpassage, Nat.add_zero] at hroom
  refine ⟨hattempt.orderly horderly, ?_⟩
  cases stage with
  | idle => exact ⟨hattempt.closed.trans hstage.1, hroom.symm.trans hstage.2⟩
  | evaluated first phase =>
    obtain ⟨hclosed, hzero, hfirst⟩ := hstage
    refine ⟨hattempt.closed.trans hclosed, hroom.symm.trans hzero, fun hmem => ?_⟩
    rcases hattempt.mem_waiting hmem with hmem | rfl
    · exact hfirst hmem
    · exact hother phase rfl
  | settled o =>
    obtain ⟨hclosed, hgranted⟩ := hstage
    refine ⟨hattempt.closed.trans hclosed, ?_⟩
    cases hattempt with
    | stays | excused | joins => exact hgranted
    | comes => exact absurd rfl hpassage
    | finds => exact absurd rfl hpassage
    | reserves _ hopen => exact absurd (hopen.symm.trans hclosed) Bool.false_ne_true

theorem Fits.leave (h : c.Fits) (hstage : c.stage = .evaluated asker phase) :
    Fits (⟨c.gate.leave.2, .idle⟩ : Cell W) := by
  obtain ⟨horderly, hclosed, hzero, -⟩ := h.evaluated hstage
  exact ⟨horderly.leave, c.gate.closed_leave.trans hclosed, c.gate.room_leave.trans (by rw [hzero])⟩

theorem Fits.withdraw (h : c.Fits) (asker : Asker) : Fits ⟨(c.gate.withdraw asker).2, c.stage⟩ := by
  obtain ⟨gate, stage⟩ := c
  obtain ⟨horderly, hstage⟩ := h
  have hclosed := gate.closed_withdraw asker
  have hroom := gate.room_withdraw asker
  refine ⟨horderly.withdraw asker, ?_⟩
  cases stage with
  | idle => exact ⟨hclosed.trans hstage.1, hroom.trans hstage.2⟩
  | evaluated first phase =>
    refine ⟨hclosed.trans hstage.1, hroom.trans hstage.2.1, fun hmem => ?_⟩
    exact hstage.2.2 ((Gate.mem_waiting_withdraw horderly.nodup asker).1 hmem).2
  | settled o =>
    obtain ⟨hshut, hgranted⟩ := hstage
    refine ⟨hclosed.trans hshut, ?_⟩
    dsimp only at hgranted ⊢
    rw [Gate.withdraw, if_neg (hgranted ▸ List.not_mem_nil), hgranted]

theorem Fits.settle (h : c.Fits) (hstage : c.stage = .evaluated asker phase) (o : Outcome) :
    Fits (⟨{ c.gate with closed := true }, .settled o⟩ : Cell W) := by
  obtain ⟨horderly, -, hzero, -⟩ := h.evaluated hstage
  refine ⟨⟨horderly.nodup, horderly.full⟩, rfl, List.eq_nil_of_length_eq_zero ?_⟩
  rw [Gate.room] at hzero
  dsimp only
  omega

theorem Fits.rephase (h : c.Fits) (hstage : c.stage = .evaluated asker phase) (phase' : Phase W) :
    Fits (⟨c.gate, .evaluated asker phase'⟩ : Cell W) := h.evaluated hstage

end Cell

/--
The call stays as it is, the registers too, the gate for fetches is open or closed as before, and the log grows by
these events.
-/
structure Spares (es : List Event) (s s' : Session W) : Prop where
  call : s'.call = s.call
  quiet : s.shared.scheduler.Quiet s'.shared.scheduler
  log : s'.shared.log = es ++ s.shared.log
  closed : s'.shared.permits.closed = s.shared.permits.closed

/-- The same, but for the cell of one node. -/
structure Alters (id : String) (es : List Event) (s s' : Session W) : Prop where
  call : s'.call = { s.call with cells := s'.call.cells }
  cell : ∀ x, x ≠ id → s'.cell x = s.cell x
  quiet : s.shared.scheduler.Quiet s'.shared.scheduler
  log : s'.shared.log = es ++ s.shared.log
  closed : s'.shared.permits.closed = s.shared.permits.closed

theorem Spares.refl (s : Session W) : Spares [] s s := ⟨rfl, .refl _, rfl, rfl⟩

theorem Spares.trans {es es' : List Event} {s t u : Session W} (h : Spares es s t) (h' : Spares es' t u) :
    Spares (es' ++ es) s u :=
  ⟨h'.call.trans h.call, h.quiet.trans h'.quiet, by rw [h'.log, h.log, List.append_assoc],
    h'.closed.trans h.closed⟩

theorem Spares.cell {es : List Event} {s s' : Session W} (h : Spares es s s') (x : String) :
    s'.cell x = s.cell x := by
  rw [Session.cell, Session.cell, h.call]

theorem Spares.alters {es : List Event} {s s' : Session W} (h : Spares es s s') (id : String) :
    Alters id es s s' :=
  ⟨by rw [h.call], fun x _ => h.cell x, h.quiet, h.log, h.closed⟩

theorem Alters.trans {id : String} {es es' : List Event} {s t u : Session W} (h : Alters id es s t)
    (h' : Alters id es' t u) : Alters id (es' ++ es) s u where
  call := by rw [h'.call, h.call]
  cell x hx := (h'.cell x hx).trans (h.cell x hx)
  quiet := h.quiet.trans h'.quiet
  log := by rw [h'.log, h.log, List.append_assoc]
  closed := h'.closed.trans h.closed

namespace Session

/-- How far a node has come. -/
def stage (s : Session W) (id : String) : Stage W := (s.cell id).stage

theorem outcome?_eq (s : Session W) (id : String) :
    s.outcome? id = match s.stage id with
      | .settled o => some o
      | .idle | .evaluated .. => none := rfl

theorem outcome?_eq_some_iff {s : Session W} {id : String} {o : Outcome} :
    s.outcome? id = some o ↔ s.stage id = .settled o := by
  rw [outcome?_eq]
  cases s.stage id with
  | idle | evaluated => simp
  | settled => simp

theorem stage_congr {s s' : Session W} (h : s'.call.cells = s.call.cells) (id : String) :
    s'.stage id = s.stage id := by
  rw [stage, stage, cell, cell, h]

/-- A node that is not idle has a cell. -/
theorem exists_cell {s : Session W} {id : String} (h : s.stage id ≠ .idle) :
    ∃ c, s.call.cells.get? id = some c ∧ c.stage = s.stage id := by
  rw [stage, cell] at h ⊢
  cases hcell : s.call.cells.get? id with
  | none =>
    rw [hcell] at h
    exact absurd rfl h
  | some c => exact ⟨c, rfl, rfl⟩

theorem outcome?_congr {s s' : Session W} {id : String} (h : s'.stage id = s.stage id) :
    s'.outcome? id = s.outcome? id := by
  rw [outcome?_eq, outcome?_eq, h]

theorem standing_eq_standing {s s' : Session W} {id : String} (h : s'.stage id = s.stage id) :
    s'.standing id = s.standing id := by
  rw [standing, standing, outcome?_congr h]

theorem standing_of_settled {s : Session W} {id : String} {o : Outcome} (h : s.stage id = .settled o) :
    s.standing id = o.standing := by
  rw [standing, outcome?_eq_some_iff.2 h]
  rfl

theorem settled_of_standing {s : Session W} {id : String} (h : s.standing id ≠ .waits) :
    ∃ o, s.stage id = .settled o ∧ s.standing id = o.standing := by
  cases hstage : s.stage id with
  | idle | evaluated =>
    rw [standing, outcome?_eq, hstage] at h
    exact absurd rfl h
  | settled o => exact ⟨o, rfl, standing_of_settled hstage⟩

theorem settled_of_ended {s : Session W} {id : String} (h : s.standing id = .ended) :
    ∃ o, s.stage id = .settled o ∧ o.standing = .ended := by
  obtain ⟨o, ho, hstanding⟩ := settled_of_standing (by rw [h]; decide)
  exact ⟨o, ho, hstanding.symm.trans h⟩

/-- A node that has failed is settled with its failure. -/
theorem settled_of_failed {s : Session W} {id : String} (h : s.standing id = .failed) :
    s.stage id = .settled (.failed (s.failure id)) := by
  obtain ⟨o, ho, hstanding⟩ := settled_of_standing (by rw [h]; decide)
  rw [failure, outcome?_eq_some_iff.2 ho, ho]
  rw [h] at hstanding
  cases o with
  | resolved | suppressed => cases hstanding
  | failed => rfl

theorem stage_of_spares {es : List Event} {s s' : Session W} (h : Spares es s s') (x : String) :
    s'.stage x = s.stage x :=
  stage_congr (congrArg Call.cells h.call) x

theorem stage_of_alters {id : String} {es : List Event} {s s' : Session W} (h : Alters id es s s') {x : String}
    (hx : x ≠ id) : s'.stage x = s.stage x := by
  rw [stage, h.cell x hx, stage]

theorem cell_setCell (s : Session W) (id : String) (c : Cell W) (x : String) :
    (s.setCell id c).cell x = if x = id then c else s.cell x := by
  rw [cell, setCell]
  by_cases h : x = id
  · subst h
    simp
  · simp only [Keyed.get?_insert_of_ne _ h, if_neg h]
    rfl

theorem cell_setCell_self (s : Session W) (id : String) (c : Cell W) : (s.setCell id c).cell id = c := by
  rw [cell_setCell, if_pos rfl]

theorem alters_setCell (s : Session W) (id : String) (c : Cell W) : Alters id [] s (s.setCell id c) :=
  ⟨rfl, fun x hx => by rw [cell_setCell, if_neg hx], .refl _, rfl, rfl⟩

/-! ### Cells -/

theorem alters_setPhase (s : Session W) (id : String) (asker : Asker) (p : Phase W) :
    Alters id [] s (s.setPhase id asker p) := alters_setCell s id _

theorem cell_setPhase (s : Session W) (id : String) (asker : Asker) (p : Phase W) :
    (s.setPhase id asker p).cell id = ⟨(s.cell id).gate, .evaluated asker p⟩ := cell_setCell_self s id _

theorem stage_setPhase (s : Session W) (id : String) (asker : Asker) (p : Phase W) :
    (s.setPhase id asker p).stage id = .evaluated asker p := by
  rw [stage, cell_setPhase]

/-- The evaluation of a node is put down after its cell has changed. -/
theorem stage_setPhase_of_ne {id x : String} {es : List Event} {s t u : Session W} (h : Alters id es s t)
    (hcall : u.call = t.call) (asker : Asker) (p : Phase W) (hx : x ≠ id) :
    (u.setPhase id asker p).stage x = s.stage x := by
  rw [stage_of_alters (u.alters_setPhase id asker p) hx, stage_congr (congrArg Call.cells hcall),
    stage_of_alters h hx]

theorem spares_reschedule (s : Session W) {f : Scheduler → Scheduler}
    (hf : s.shared.scheduler.Quiet (f s.shared.scheduler)) : Spares [] s (reschedule s f) :=
  ⟨rfl, hf, rfl, rfl⟩

theorem spares_world (s : Session W) (world : W) {k : Scheduler} (hk : s.shared.scheduler.Quiet k) :
    Spares [] s { s with shared.world := world, shared.scheduler := k } := ⟨rfl, hk, rfl, rfl⟩

theorem spares_record (s : Session W) (e : Event) : Spares [e] s (s.record e) := ⟨rfl, .refl _, rfl, rfl⟩

theorem alters_settle (s : Session W) (id : String) (o : Outcome) :
    Alters id [.settled s.call.number id o] s (s.settle id o) :=
  (((s.spares_record _).alters id).trans (alters_setCell _ id _)).trans
    ((spares_reschedule _ (.foldl Scheduler.quiet_wake _ _)).alters id)

theorem cell_settle (s : Session W) (id : String) (o : Outcome) :
    (s.settle id o).cell id = ⟨{ (s.cell id).gate with closed := true }, .settled o⟩ :=
  cell_setCell_self _ id _

theorem stage_settle (s : Session W) (id : String) (o : Outcome) : (s.settle id o).stage id = .settled o := by
  rw [stage, cell_settle]

theorem alters_enterCell (s : Session W) (id : String) (asker : Asker) (w : Waker) :
    Alters id [] s (s.enterCell id asker w).2 :=
  ⟨rfl, fun x hx => (s.alters_setCell id _).cell x hx, Scheduler.quiet_pass _ _ _ _, rfl, rfl⟩

/-- Whoever comes to a cell attempts to go through its gate, and how far the node has come stays as it is. -/
theorem enterCell_attempt (s : Session W) (id : String) (asker : Asker) (w : Waker) :
    ∃ gate, (s.cell id).gate.Attempt asker w (s.enterCell id asker w).1 gate ∧
      (s.enterCell id asker w).2.cell id = ⟨gate, s.stage id⟩ :=
  ⟨_, s.shared.scheduler.pass_attempt _ asker w, cell_setCell_self s id _⟩

theorem alters_renounceCell (s : Session W) (id : String) (asker : Asker) :
    Alters id [] s (s.renounceCell id asker) :=
  (alters_setCell s id _).trans ((spares_reschedule _ (Scheduler.quiet_wakeAny _ _)).alters id)

theorem cell_renounceCell (s : Session W) (id : String) (asker : Asker) :
    (s.renounceCell id asker).cell id = ⟨((s.cell id).gate.withdraw asker).2, s.stage id⟩ :=
  cell_setCell_self s id _

theorem stage_renounceCell (s : Session W) (id : String) (asker : Asker) (x : String) :
    (s.renounceCell id asker).stage x = s.stage x := by
  by_cases hx : x = id
  · rw [hx, stage, cell_renounceCell]
  · exact stage_of_alters (s.alters_renounceCell id asker) hx

theorem alters_leaveCell (s : Session W) (id : String) : Alters id [] s (s.leaveCell id) :=
  (alters_setCell s id _).trans ((spares_reschedule _ (Scheduler.quiet_wakeAny _ _)).alters id)

theorem cell_leaveCell (s : Session W) (id : String) :
    (s.leaveCell id).cell id = ⟨(s.cell id).gate.leave.2, .idle⟩ := cell_setCell_self s id _

theorem stage_leaveCell (s : Session W) (id : String) : (s.leaveCell id).stage id = .idle := by
  rw [stage, cell_leaveCell]

theorem spares_takePermit (s : Session W) (id : String) (w : Waker) : Spares [] s (s.takePermit id w).2 :=
  ⟨rfl, Scheduler.quiet_pass _ _ _ _, rfl, (s.shared.scheduler.pass_attempt _ _ w).closed⟩

/-- A fetch that comes to the gate attempts to go through it. -/
theorem takePermit_attempt {s t : Session W} {id : String} {w : Waker} {passage : Gate.Passage}
    (h : s.takePermit id w = (passage, t)) :
    t.shared.log = s.shared.log ∧ s.shared.permits.Attempt (s.party id) w passage t.shared.permits := by
  have hattempt := s.shared.scheduler.pass_attempt s.shared.permits (s.party id) w
  unfold takePermit at h
  generalize s.shared.scheduler.pass s.shared.permits (s.party id) w = out at h hattempt
  obtain ⟨passage', permits, k⟩ := out
  cases h
  exact ⟨rfl, hattempt⟩

theorem spares_releasePermit (s : Session W) : Spares [] s s.releasePermit :=
  ⟨rfl, Scheduler.quiet_wakeAny _ _, rfl, Gate.closed_leave _⟩

theorem spares_renouncePermit (s : Session W) (id : String) : Spares [] s (s.renouncePermit id) :=
  ⟨rfl, Scheduler.quiet_wakeAny _ _, rfl, Gate.closed_withdraw _ _⟩

theorem spares_endFetch (s : Session W) (id : String) (limit : Alarm) :
    Spares [.ended s.call.number id] s (s.endFetch id limit) :=
  ((s.spares_record _).trans (spares_reschedule _ (Scheduler.quiet_cancel _ limit))).trans
    (spares_releasePermit _)

end Session

namespace Pursuit

/-- A fetch that has come to an end leaves the call as it is, and one that goes on is put down. -/
theorem fetchOn_effect (asker : Asker) (w : Waker) (c : ConnectorNode W)
    (fetch : Strand W (Except ConnectorError AttributeMap)) (limit : Alarm) (s : Session W) :
    (∃ r, (fetchOn asker w c fetch limit s).1 = some r ∧
        Spares [.ended s.call.number c.id] s (fetchOn asker w c fetch limit s).2) ∨
      (∃ fetch' limit' t, fetchOn asker w c fetch limit s = (none, t.setPhase c.id asker (.fetching fetch' limit')) ∧
        Spares [] s t) := by
  have hgoOn := Strand.quiet_goOn (s.party c.id) w fetch s.shared.world s.shared.scheduler
  unfold fetchOn
  dsimp only
  generalize fetch.goOn (s.party c.id) w s.shared.world s.shared.scheduler = step at hgoOn ⊢
  obtain ⟨progress, world, k⟩ := step
  cases progress with
  | ended r => exact .inl ⟨r, rfl, (s.spares_world world hgoOn).trans (Session.spares_endFetch _ c.id limit)⟩
  | waits fetch' =>
    have hover := hgoOn.trans (Scheduler.quiet_isOver k limit w s.shared.scheduler.steps)
    dsimp only at hover ⊢
    generalize k.isOver limit w s.shared.scheduler.steps = answer at hover ⊢
    obtain ⟨isOver, limit', k'⟩ := answer
    cases isOver with
    | true =>
      have hdrop := hover.trans (Strand.quiet_drop (s.party c.id) fetch' k')
      exact .inl ⟨_, rfl, (s.spares_world world hdrop).trans (Session.spares_endFetch _ c.id limit')⟩
    | false => exact .inr ⟨fetch', limit', _, rfl, s.spares_world world hover⟩

end Pursuit

end Resolver

end AttributeRelease
