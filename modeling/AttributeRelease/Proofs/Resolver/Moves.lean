import AttributeRelease.Proofs.Graph.Validation
import AttributeRelease.Proofs.Resolver.Cells
import AttributeRelease.Resolver.Release

/-!
What a call can do, move by move. A turn of a call is a chain of moves, and each of them changes the cell of
one node, brings the register of one crowd up to date, or breaks off what waits beside a failure. Everything
that is said about calls under way is shown for one move and then follows for chains of them.

Some moves make a node fail. In a small group the failure of a member ends the group in the same turn, so
that failures follow on one another until the call ends. Only a crowd can go on after one of its members has
failed, and whether there are crowds is a parameter of the chains.
-/

namespace AttributeRelease

namespace Resolver

variable {W : Type}

namespace Session

/-- The group of the call itself, or of a node that waits for its dependencies. -/
def group? (s : Session W) : Option String → Option Group
  | none => s.call.begun.map Prod.fst
  | some id =>
    match s.stage id with
    | .evaluated _ (.joining group) => some group
    | .idle | .evaluated .. | .settled _ => none

/-- Whether a crowd is the group of the call or of a node. -/
def Owns (s : Session W) (holder : Option String) (number : Nat) : Prop :=
  ∃ size, s.group? holder = some ⟨size, some number⟩

theorem group?_node {s : Session W} {id : String} {asker : Asker} {group : Group}
    (h : s.stage id = .evaluated asker (.joining group)) : s.group? (some id) = some group := by
  rw [group?, h]

theorem group?_node_eq_some {s : Session W} {id : String} {group : Group}
    (h : s.group? (some id) = some group) : ∃ asker, s.stage id = .evaluated asker (.joining group) := by
  rw [group?] at h
  cases hstage : s.stage id with
  | idle | settled =>
    rw [hstage] at h
    cases h
  | evaluated asker phase =>
    rw [hstage] at h
    cases phase with
    | joining => exact ⟨asker, Option.some.inj h ▸ rfl⟩
    | queued | fetching | recovering => cases h

theorem group?_congr {s s' : Session W} {holder : Option String}
    (hbegun : s'.call.begun.map Prod.fst = s.call.begun.map Prod.fst)
    (hstage : ∀ id, holder = some id → s'.stage id = s.stage id) : s'.group? holder = s.group? holder := by
  cases holder with
  | none => exact hbegun
  | some id => rw [group?, group?, hstage id rfl]

end Session

/-- The nodes that the call, or a node of it, asks for side by side. -/
def wanted (g : Graph W) (c : Call W) : Option String → List String
  | none => (g.roots c.requested).map Node.id
  | some id => (g.node? id).elim [] fun n => n.dependencies.map Dependency.node

theorem wanted_node {g : Graph W} {n : Node W} (c : Call W) (hn : g.node? n.id = some n) :
    wanted g c (some n.id) = n.dependencies.map Dependency.node := by
  rw [wanted, hn, Option.elim_some]

/--
Somebody asks for a node: a member of a group for what is wanted at its place, which is alive if the group is a
crowd, or a node that has failed for its failover.
-/
inductive Asking (g : Graph W) (s : Session W) : Asker → String → Prop
  | member {holder : Option String} {group : Group} {place : Nat} {id : String}
    (hgroup : s.group? holder = some group) (hid : (wanted g s.call holder)[place]? = some id)
    (halive : ∀ number, group.crowd = some number →
      ∃ register, s.shared.scheduler.register number = some register ∧ (register place).1 = true) :
    Asking g s ⟨holder, place⟩ id
  | failover {n : Node W} {asker : Asker} {e : ResolutionError} {failover : String}
    (hnode : g.node? n.id = some n) (hfailover : n.failover = some failover)
    (hstage : s.stage n.id = .evaluated asker (.recovering e)) :
    Asking g s ⟨some n.id, n.dependencies.length⟩ failover

/-- What the register of a crowd says about its members is so. -/
def Agrees (s : Session W) (ids : List String) (register : Nat → Bool × Bool) : Prop :=
  ∀ place id, ids[place]? = some id →
    ((register place).2 = true → s.standing id = .failed) ∧
      ((register place).1 = false → s.standing id ≠ .waits ∧
        (s.standing id = .failed → (register place).2 = true))

theorem Agrees.mono {s s' : Session W} {ids : List String} {register : Nat → Bool × Bool}
    (h : Agrees s ids register) (hstands : ∀ x, s.standing x ≠ .waits → s'.standing x = s.standing x) :
    Agrees s' ids register := by
  intro place id hid
  obtain ⟨hfailed, hended⟩ := h place id hid
  refine ⟨fun hr => ?_, fun hr => ?_⟩
  · have hs := hfailed hr
    rw [hstands id (by rw [hs]; exact nofun), hs]
  · obtain ⟨hs, hmark⟩ := hended hr
    rw [hstands id hs]
    exact ⟨hs, hmark⟩

/-- All that a node depends on is there. -/
def Supplied (g : Graph W) (s : Session W) (id : String) : Prop :=
  ∀ d ∈ wanted g s.call (some id), s.standing d = .ended

/-- Whether a node still waits for its dependencies. -/
def Phase.isJoining : Phase W → Bool
  | .joining _ => true
  | .queued | .fetching .. | .recovering _ => false

/-- Whether a node has not begun to do what it is for. -/
def Phase.isEarly : Phase W → Bool
  | .joining _ | .queued => true
  | .fetching .. | .recovering _ => false

/--
What holds of a call between its moves. Fetches are let in, and every gate fits its node. Every group has a member
for each node that is wanted, its crowd is its own, and the register of the crowd is right, or it is forgotten when
nobody waits any longer; crowds are only there if `wide` holds, as it does if so much is wanted at a time. A node
that no longer waits for its dependencies has them all.
-/
structure Coherent (g : Graph W) (wide : Prop) (s : Session W) : Prop where
  spread : ∀ holder, Group.maxInOrder < (wanted g s.call holder).length → wide
  opened : s.shared.permits.closed = false
  fits : ∀ id, (s.cell id).Fits
  size : ∀ holder group, s.group? holder = some group → group.size = (wanted g s.call holder).length
  wide : ∀ holder number, s.Owns holder number → wide
  numbered : ∀ holder number, s.Owns holder number → number < s.shared.scheduler.unused
  agrees : ∀ holder number register, s.Owns holder number →
    s.shared.scheduler.register number = some register → Agrees s (wanted g s.call holder) register
  forgotten : ∀ holder number, s.Owns holder number → s.shared.scheduler.register number = none →
    ∀ id ∈ wanted g s.call holder, s.standing id ≠ .waits
  own : ∀ holder holder' number, s.Owns holder number → s.Owns holder' number → holder = holder'
  supplied : ∀ id asker phase, s.stage id = .evaluated asker phase → phase.isJoining = false → Supplied g s id

/--
Nodes that were evaluated are evaluated no longer, and their fetches have ended. What is settled stays so, and
nobody comes to wait for a node.
Crowds that are still there afterwards are as they were, but for the one that is broken off.
-/
structure Drops (crowd : Option Nat) (s s' : Session W) : Prop where
  call : s'.call = { s.call with cells := s'.call.cells }
  stage : ∀ x, s'.stage x = s.stage x ∨ (∃ asker phase, s.stage x = .evaluated asker phase) ∧ s'.stage x = .idle
  fits : ∀ x, (s.cell x).Fits → (s'.cell x).Fits
  waiting : ∀ x, ∀ a ∈ (s'.cell x).gate.waiting, a ∈ (s.cell x).gate.waiting
  clock : s'.shared.scheduler.clock = s.shared.scheduler.clock
  unused : s.shared.scheduler.unused ≤ s'.shared.scheduler.unused
  register : ∀ number, some number ≠ crowd → (∀ holder, s.Owns holder number → s'.Owns holder number) →
    s'.shared.scheduler.register number = s.shared.scheduler.register number
  log : ∃ es, s'.shared.log = es ++ s.shared.log ∧ ∀ e ∈ es, ∃ id, e = .ended s.call.number id
  closed : s'.shared.permits.closed = s.shared.permits.closed

/-! ### Moves -/

/-- A fetch that is about to go on: one that is under way, or one that is let in at this moment. -/
inductive Underway (g : Graph W) (asker : Asker) (w : Waker) (c : ConnectorNode W) :
    Session W → Strand W (Except ConnectorError AttributeMap) → Alarm → Session W → Prop
  | goesOn {s : Session W} {fetch : Strand W (Except ConnectorError AttributeMap)} {limit : Alarm}
    (hnode : g.node? c.id = some (.connector c))
    (hstage : s.stage c.id = .evaluated asker (.fetching fetch limit)) :
    Underway g asker w c s fetch limit s
  | begins {s t : Session W} {phase : Phase W} (hnode : g.node? c.id = some (.connector c))
    (hstage : s.stage c.id = .evaluated asker phase) (hearly : phase.isEarly = true)
    (hsupplied : Supplied g s c.id) (hpermit : s.takePermit c.id w = (.enters, t)) :
    Underway g asker w c s (.poised (c.connector (Pursuit.fetchInput c t)))
      (t.shared.scheduler.alarm t.call.timeout) (t.record (.began t.call.number c.id))

/-- What a node comes to by itself, computed at once or fetched. -/
inductive Attempted (g : Graph W) (asker : Asker) :
    Node W → Except ResolutionError AttributeMap → Session W → Session W → Prop
  | computed {s : Session W} {d : DefinitionNode} {group : Group} (hnode : g.node? d.id = some (.definition d))
    (hstage : s.stage d.id = .evaluated asker (.joining group)) (hsupplied : Supplied g s d.id) :
    Attempted g asker (.definition d) (Pursuit.computation g d s) s
      ((s.record (.computed s.call.number d.id)).record (.own s.call.number d.id (Pursuit.computation g d s)))
  | fetched {s t u : Session W} {c : ConnectorNode W} {w : Waker}
    {fetch : Strand W (Except ConnectorError AttributeMap)} {limit : Alarm}
    {r : Except ConnectorError AttributeMap} (hunderway : Underway g asker w c s fetch limit t)
    (hended : Pursuit.fetchOn asker w c fetch limit t = (some r, u)) :
    Attempted g asker (.connector c) (r.mapError (.connector c.id)) s
      (u.record (.own u.call.number c.id (r.mapError (.connector c.id))))

/-- A node fails because another one has failed. -/
inductive Falls (g : Graph W) : Session W → Session W → Prop
  /-- The failover has failed too. -/
  | givesUp {s : Session W} {n : Node W} {asker : Asker} {e : ResolutionError} {failover : String}
    (hnode : g.node? n.id = some n) (hfailover : n.failover = some failover)
    (hstage : s.stage n.id = .evaluated asker (.recovering e)) (hfailed : s.standing failover = .failed) :
    Falls g s (s.settle n.id (.failed (s.failure failover)))
  /-- A dependency has failed, and the others are no longer asked for. -/
  | follows {s t : Session W} {n : Node W} {asker : Asker} {group : Group} {d : String}
    (hnode : g.node? n.id = some n) (hstage : s.stage n.id = .evaluated asker (.joining group))
    (hwanted : d ∈ wanted g s.call (some n.id)) (hfailed : s.standing d = .failed)
    (hdrops : Drops group.crowd s t) (hkept : t.stage n.id = s.stage n.id)
    (hdisbanded : t = group.disband
      (dismissAt (dismiss g (levels g)) (some n.id) (wanted g s.call (some n.id))) s) :
    Falls g s (t.settle n.id (.failed (s.failure d)))

/-- A move of a call, and whether it makes a node fail. -/
inductive Move (g : Graph W) : (fails : Bool) → Session W → Session W → Prop
  /-- Somebody is woken, stands in a line or looks at the time. -/
  | rests {s s' : Session W} (hcall : s'.call = { s.call with cells := s'.call.cells, begun := s'.call.begun })
    (hbegun : s'.call.begun.map Prod.fst = s.call.begun.map Prod.fst)
    (hstage : ∀ x, s'.stage x = s.stage x) (hfits : ∀ x, (s.cell x).Fits → (s'.cell x).Fits)
    (hquiet : s.shared.scheduler.Quiet s'.shared.scheduler) (hlog : s'.shared.log = s.shared.log)
    (hpermits : s'.shared.permits = s.shared.permits)
    (hwaiting : ∀ x, ∀ a ∈ (s'.cell x).gate.waiting, a ∈ (s.cell x).gate.waiting ∨ Asking g s a x) :
    Move g false s s'
  /-- A crowd takes note of how a member came out of its turn, or is forgotten when nobody is asked for any more. -/
  | notes {s : Session W} {k : Scheduler} {holder : Option String} {number : Nat} (howns : s.Owns holder number)
    (hclock : k.clock = s.shared.scheduler.clock) (hunused : s.shared.scheduler.unused ≤ k.unused)
    (hothers : ∀ n, n ≠ number → k.register n = s.shared.scheduler.register n)
    (hagrees : ∀ register, k.register number = some register → Agrees s (wanted g s.call holder) register)
    (hforgotten : k.register number = none → s.shared.scheduler.register number = none ∨
      ∀ id ∈ wanted g s.call holder, s.standing id ≠ .waits) :
    Move g false s { s with shared.scheduler := k }
  /-- The call starts from the nodes it is for. -/
  | embarks {s t : Session W} {group : Group} {limit : Option Alarm} (hbegun : s.call.begun = none)
    (hstart : Group.start (wanted g s.call none).length s = (group, t)) :
    Move g false s { t with call.begun := some (group, limit) }
  /-- Whoever comes through the gate of a node evaluates it. -/
  | enters {s t u : Session W} {n : Node W} {asker : Asker} {w : Waker} {group : Group}
    (hnode : g.node? n.id = some n) (henter : s.enterCell n.id asker w = (.enters, t))
    (hstart : Group.start n.dependencies.length t = (group, u)) (hasking : Asking g s asker n.id) :
    Move g false s (u.setPhase n.id asker (.joining group))
  /-- A fetch is not let in yet. -/
  | queues {s t : Session W} {c : ConnectorNode W} {asker : Asker} {w : Waker} {phase : Phase W}
    (hnode : g.node? c.id = some (.connector c)) (hstage : s.stage c.id = .evaluated asker phase)
    (hearly : phase.isEarly = true) (hsupplied : Supplied g s c.id) (hpermit : s.takePermit c.id w = (.waits, t)) :
    Move g false s (t.setPhase c.id asker .queued)
  /-- A fetch goes on for longer than this turn. -/
  | fetches {s t u : Session W} {c : ConnectorNode W} {asker : Asker} {w : Waker}
    {fetch : Strand W (Except ConnectorError AttributeMap)} {limit : Alarm}
    (hunderway : Underway g asker w c s fetch limit t)
    (hwaits : Pursuit.fetchOn asker w c fetch limit t = (none, u)) : Move g false s u
  /-- A node has come to its attributes. -/
  | succeeds {s t : Session W} {n : Node W} {asker : Asker} {m : AttributeMap}
    (hattempted : Attempted g asker n (.ok m) s t) : Move g false s (t.settle n.id (.resolved m))
  /-- A node has failed, and its failover is asked for. -/
  | turnsOver {s t : Session W} {n : Node W} {asker : Asker} {e : ResolutionError} {failover : String}
    (hattempted : Attempted g asker n (.error e) s t) (hfailover : n.failover = some failover) :
    Move g false s (t.setPhase n.id asker (.recovering e))
  /-- A node has failed, and what needs it goes on without it. -/
  | isSpared {s t : Session W} {n : Node W} {asker : Asker} {e : ResolutionError}
    (hattempted : Attempted g asker n (.error e) s t) (hfailover : n.failover = none)
    (hpropagates : n.propagatesErrors = false) : Move g false s (t.settle n.id (.suppressed e))
  /-- A node has failed, and so does what needs it. -/
  | breaks {s t : Session W} {n : Node W} {asker : Asker} {e : ResolutionError}
    (hattempted : Attempted g asker n (.error e) s t) (hfailover : n.failover = none)
    (hpropagates : n.propagatesErrors = true) : Move g true s (t.settle n.id (.failed e))
  /-- The failover has come to its attributes. -/
  | adopts {s : Session W} {n : Node W} {asker : Asker} {e : ResolutionError} {failover : String}
    (hnode : g.node? n.id = some n) (hfailover : n.failover = some failover)
    (hstage : s.stage n.id = .evaluated asker (.recovering e)) (hended : s.standing failover = .ended) :
    Move g false s (s.settle n.id (.resolved (s.attributesOf failover)))
  /-- A node fails with another one. -/
  | falls {s s' : Session W} (h : Falls g s s') : Move g true s s'

/-- Somebody is woken, or is to be. -/
theorem Move.reschedules {g : Graph W} {s : Session W} {f : Scheduler → Scheduler}
    (h : s.shared.scheduler.Quiet (f s.shared.scheduler)) : Move g false s (reschedule s f) :=
  .rests rfl rfl (fun _ => rfl) (fun _ h => h) h rfl rfl fun _ _ h => .inl h

/--
Chains of moves, and whether a node has failed at their end. After a failure others only fail with it, unless
there are crowds.
-/
inductive Moves (g : Graph W) (wide : Prop) (s : Session W) : (fails : Bool) → Session W → Prop
  | refl : Moves g wide s false s
  | tail {t u : Session W} (h : Moves g wide s false t) (hmove : Move g false t u) : Moves g wide s false u
  | fall {t u : Session W} (h : Moves g wide s false t) (hmove : Move g true t u) : Moves g wide s true u
  | follow {t u : Session W} (h : Moves g wide s true t) (hfalls : Falls g t u) : Moves g wide s true u
  | slack {t : Session W} (h : Moves g wide s false t) : Moves g wide s true t
  | resume {t : Session W} (hwide : wide) (h : Moves g wide s true t) : Moves g wide s false t

namespace Moves

variable {g : Graph W} {wide : Prop} {s t u : Session W}

/-- What every move preserves every chain preserves. -/
theorem induct {fails : Bool} {P : Session W → Prop} (hmove : ∀ b t u, Move g b t u → P t → P u) (h : P s)
    (hmoves : Moves g wide s fails t) : P t := by
  induction hmoves with
  | refl => exact h
  | tail _ hstep ih => exact hmove _ _ _ hstep ih
  | fall _ hstep ih => exact hmove _ _ _ hstep ih
  | follow _ hfalls ih => exact hmove _ _ _ (.falls hfalls) ih
  | slack _ ih => exact ih
  | resume _ _ ih => exact ih

theorem trans {b : Bool} (h : Moves g wide s false t) (h' : Moves g wide t b u) : Moves g wide s b u := by
  induction h' with
  | refl => exact h
  | tail _ hmove ih => exact .tail ih hmove
  | fall _ hmove ih => exact .fall ih hmove
  | follow _ hfalls ih => exact .follow ih hfalls
  | slack _ ih => exact .slack ih
  | resume hwide _ ih => exact .resume hwide ih

theorem single (h : Move g false s t) : Moves g wide s false t := .tail .refl h

end Moves

end Resolver

end AttributeRelease
