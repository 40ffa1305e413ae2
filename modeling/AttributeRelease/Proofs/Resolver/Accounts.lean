import AttributeRelease.Proofs.Resolver.Turns
import AttributeRelease.Resolver.Log
import Mathlib.Data.Finset.Card

/-!
The accounts of the gate for fetches. A permit is free, or it has been given to a node that stands before the gate, or
a fetch has it that is under way; and whichever way a fetch comes to its end, its permit goes back. Every move of a
call keeps the accounts right for its own nodes and leaves those of other calls alone.
-/

namespace AttributeRelease

namespace Resolver

variable {W : Type}

/-- The fetches that have begun and have not ended yet, from what happened, latest first. -/
def underWay : List Event → Finset Party
  | [] => ∅
  | .began call id :: log => insert (call, id) (underWay log)
  | .ended call id :: log => (underWay log).erase (call, id)
  | .computed .. :: log | .gave .. :: log | .erred .. :: log | .settled .. :: log => underWay log

theorem mostInFlight_append (now : Nat) (es : List Event) (e : Event) :
    mostInFlight now (es ++ [e]) = max (mostInFlight now es) (e.inFlight (es.foldl Event.inFlight now)) := by
  induction es generalizing now with
  | nil => rfl
  | cons first rest ih =>
    rw [List.cons_append, mostInFlight, ih, mostInFlight, List.foldl_cons, max_assoc]

/--
The gate is open and in order. Its room and the fetches under way are so many together, and there
were never more fetches at a time.
-/
structure Accounts (n : Nat) (sh : Shared W) : Prop where
  opened : sh.permits.closed = false
  orderly : sh.permits.Orderly
  room : sh.permits.room + (underWay sh.log).card = n
  running : sh.log.reverse.foldl Event.inFlight 0 = (underWay sh.log).card
  most : mostInFlight 0 sh.log.reverse ≤ n

section

variable {n : Nat} {sh sh' : Shared W} {p : Party}

/-- What an event does to the number of fetches under way it does to their greatest number. -/
theorem Accounts.logs (h : Accounts n sh) {e : Event} (hlog : sh'.log = e :: sh.log)
    (hopened : sh'.permits.closed = false) (horderly : sh'.permits.Orderly)
    (hroom : sh'.permits.room + (underWay sh'.log).card = n)
    (hrunning : e.inFlight (underWay sh.log).card = (underWay sh'.log).card) : Accounts n sh' := by
  have hfold : sh'.log.reverse.foldl Event.inFlight 0 = e.inFlight (underWay sh.log).card := by
    rw [hlog, List.reverse_cons, List.foldl_append, h.running]
    rfl
  refine ⟨hopened, horderly, hroom, hfold.trans hrunning, ?_⟩
  rw [hlog, List.reverse_cons, mostInFlight_append, h.running, hrunning]
  exact max_le h.most (by omega)

theorem Accounts.of_room (h : Accounts n sh) (hlog : sh'.log = sh.log)
    (hclosed : sh'.permits.closed = sh.permits.closed) (horderly : sh'.permits.Orderly)
    (hroom : sh'.permits.room = sh.permits.room) : Accounts n sh' := by
  refine ⟨hclosed.trans h.opened, horderly, ?_, ?_, ?_⟩
  · rw [hroom, hlog, h.room]
  · rw [hlog, h.running]
  · rw [hlog]
    exact h.most

/-- What is done for one node: afterwards it fetches or not, and may wait for its permit or not. -/
structure Serves (n : Nat) (p : Party) (fetches waits : Bool) (sh sh' : Shared W) : Prop where
  accounts : Accounts n sh'
  fetching : p ∈ underWay sh'.log ↔ fetches = true
  waiting : p ∈ sh'.permits.waiting → waits = true
  others : ∀ q, q ≠ p → (q ∈ underWay sh'.log ↔ q ∈ underWay sh.log) ∧
    (q ∈ sh'.permits.waiting → q ∈ sh.permits.waiting)

namespace Serves

variable {f w w' : Bool} {sh₀ : Shared W}

/-- Room may be given to somebody, and the node may come or go; nobody else comes. -/
theorem of_room (h : Serves n p f w sh₀ sh) (hlog : sh'.log = sh.log)
    (hclosed : sh'.permits.closed = sh.permits.closed) (horderly : sh'.permits.Orderly)
    (hroom : sh'.permits.room = sh.permits.room) (hself : p ∈ sh'.permits.waiting → w' = true)
    (hothers : ∀ q, q ≠ p → q ∈ sh'.permits.waiting → q ∈ sh.permits.waiting) : Serves n p f w' sh₀ sh' where
  accounts := h.accounts.of_room hlog hclosed horderly hroom
  fetching := by rw [hlog, h.fetching]
  waiting := hself
  others q hq := by
    rw [hlog]
    exact ⟨(h.others q hq).1, fun hmem => (h.others q hq).2 (hothers q hq hmem)⟩

/-- Whatever the clock and the world do changes nothing. -/
theorem congr (h : Serves n p f w sh₀ sh) (hpermits : sh'.permits = sh.permits) (hlog : sh'.log = sh.log) :
    Serves n p f w sh₀ sh' := by
  apply h.of_room hlog <;> rw [hpermits]
  · exact h.accounts.orderly
  · exact h.waiting
  · exact fun q _ hmem => hmem

/-- Nor does an event that is not about a fetch. -/
theorem logs (h : Serves n p f w sh₀ sh) {e : Event} (hpermits : sh'.permits = sh.permits)
    (hlog : sh'.log = e :: sh.log) (hcount : ∀ k, e.inFlight k = k)
    (hsame : underWay (e :: sh.log) = underWay sh.log) : Serves n p f w sh₀ sh' := by
  have hunderWay : underWay sh'.log = underWay sh.log := by rw [hlog, hsame]
  have haccounts : Accounts n sh' := by
    refine h.accounts.logs hlog ?_ ?_ ?_ ?_
    · rw [hpermits, h.accounts.opened]
    · rw [hpermits]
      exact h.accounts.orderly
    · rw [hpermits, hunderWay, h.accounts.room]
    · rw [hcount, hunderWay]
  refine ⟨haccounts, by rw [hunderWay, h.fetching], ?_, fun q hq => ?_⟩
  · rw [hpermits]
    exact h.waiting
  · rw [hunderWay, hpermits]
    exact h.others q hq

/-- What a node comes to by itself is no fetch. -/
theorem own (h : Serves n p f w sh₀ sh) (call : Nat) (id : String) (r : Except ResolutionError AttributeMap)
    (hpermits : sh'.permits = sh.permits) (hlog : sh'.log = .own call id r :: sh.log) : Serves n p f w sh₀ sh' := by
  cases r with
  | ok | error => exact h.logs hpermits hlog (fun _ => rfl) rfl

end Serves

namespace Session

variable {s t : Session W} {id : String} {w : Waker} {sh₀ : Shared W} {f waits : Bool}

/-- A fetch that is let in has a permit. -/
theorem serves_began (h : Serves n (s.party id) false f sh₀ s.shared) (hpermit : s.takePermit id w = (.enters, t)) :
    Serves n (s.party id) true false sh₀ (t.record (.began t.call.number id)).shared := by
  obtain ⟨hlog, hattempt⟩ := takePermit_attempt hpermit
  have hcall : t.call = s.call := by
    have hspares := s.spares_takePermit id w
    rw [hpermit] at hspares
    exact hspares.call
  have hnew : s.party id ∉ underWay s.shared.log := by
    rw [h.fetching]
    exact Bool.false_ne_true
  have hunderWay : underWay (t.record (.began t.call.number id)).shared.log =
      insert (s.party id) (underWay s.shared.log) := by
    rw [← hlog, ← show t.party id = s.party id by rw [party, party, hcall]]
    rfl
  have hcard := Finset.card_insert_of_notMem hnew
  -- the permit was free, or the node had been given it before
  have hroom := hattempt.room
  rw [if_pos rfl] at hroom
  have hopened := hattempt.closed.trans h.accounts.opened
  have horderly := hattempt.orderly h.accounts.orderly
  refine ⟨h.accounts.logs (e := .began t.call.number id) (by rw [← hlog]; rfl) hopened horderly ?_ ?_, ?_,
    fun hmem => ?_, fun q hq => ⟨?_, fun hmem => ?_⟩⟩
  · have hbefore := h.accounts.room
    rw [hunderWay, hcard]
    change t.shared.permits.room + _ = n
    omega
  · rw [hunderWay, hcard]
    rfl
  · simp [hunderWay]
  · exact absurd hmem (hattempt.not_mem_waiting h.accounts.orderly.nodup)
  · rw [hunderWay, Finset.mem_insert, or_iff_right hq]
    exact (h.others q hq).1
  · exact (h.others q hq).2 ((hattempt.mem_waiting hmem).resolve_right hq)

/-- A node that is not let in waits for its permit. -/
theorem serves_queued (h : Serves n (s.party id) false f sh₀ s.shared) (hpermit : s.takePermit id w = (.waits, t)) :
    Serves n (s.party id) false true sh₀ t.shared := by
  obtain ⟨hlog, hattempt⟩ := takePermit_attempt hpermit
  have hroom := hattempt.room
  rw [if_neg nofun, Nat.add_zero] at hroom
  exact h.of_room hlog hattempt.closed (hattempt.orderly h.accounts.orderly) hroom.symm (fun _ => rfl)
    fun q hq hmem => (hattempt.mem_waiting hmem).resolve_right hq

/-- A fetch that ends makes room for another one. -/
theorem serves_endFetch (h : Serves n (s.party id) true false sh₀ s.shared) (limit : Alarm) :
    Serves n (s.party id) false false sh₀ (s.endFetch id limit).shared := by
  have hmem : s.party id ∈ underWay s.shared.log := h.fetching.2 rfl
  have hunderWay : underWay (s.endFetch id limit).shared.log = (underWay s.shared.log).erase (s.party id) := rfl
  have hcard := Finset.card_erase_of_mem hmem
  have hpos := Finset.card_pos.2 ⟨_, hmem⟩
  have hpermits : (s.endFetch id limit).shared.permits = s.shared.permits.leave.2 := rfl
  refine ⟨h.accounts.logs (e := .ended s.call.number id) rfl ?_ ?_ ?_ ?_, ?_, fun hwaits => ?_,
    fun q hq => ⟨?_, fun hwaits => ?_⟩⟩
  · rw [hpermits, Gate.closed_leave, h.accounts.opened]
  · rw [hpermits]
    exact h.accounts.orderly.leave
  · have hbefore := h.accounts.room
    rw [hpermits, Gate.room_leave, hunderWay, hcard]
    omega
  · rw [hunderWay, hcard]
    rfl
  · simp [hunderWay]
  · rw [hpermits, Gate.mem_waiting_leave] at hwaits
    exact h.waiting hwaits
  · rw [hunderWay, Finset.mem_erase, and_iff_right hq]
    exact (h.others q hq).1
  · rw [hpermits, Gate.mem_waiting_leave] at hwaits
    exact (h.others q hq).2 hwaits

/-- A node that gives up waiting gives back the permit that it may have been given. -/
theorem serves_renouncePermit (h : Serves n (s.party id) false f sh₀ s.shared) :
    Serves n (s.party id) false false sh₀ (s.renouncePermit id).shared := by
  have horderly := h.accounts.orderly
  have hpermits : (s.renouncePermit id).shared.permits = (s.shared.permits.withdraw (s.party id)).2 := rfl
  have hlog : (s.renouncePermit id).shared.log = s.shared.log := rfl
  apply h.of_room hlog <;> rw [hpermits]
  · exact Gate.closed_withdraw _ _
  · exact horderly.withdraw _
  · exact Gate.room_withdraw _ _
  · exact fun hwaits => absurd rfl ((Gate.mem_waiting_withdraw horderly.nodup _).1 hwaits).1
  · exact fun q _ hwaits => ((Gate.mem_waiting_withdraw horderly.nodup _).1 hwaits).2

end Session

/-- A fetch that goes on keeps its permit, and one that has come to its end, in time or not, gives it back. -/
theorem Pursuit.serves_fetchOn {s : Session W} {c : ConnectorNode W} {sh₀ : Shared W}
    (h : Serves n (s.party c.id) true false sh₀ s.shared) (asker : Asker) (w : Waker)
    (fetch : Strand W (Except ConnectorError AttributeMap)) (limit : Alarm) :
    Serves n (s.party c.id) (fetchOn asker w c fetch limit s).1.isNone false sh₀
      (fetchOn asker w c fetch limit s).2.shared := by
  unfold fetchOn
  dsimp only
  generalize fetch.goOn (s.party c.id) w s.shared.world s.shared.scheduler = step
  obtain ⟨progress, world, k⟩ := step
  have hworld : ∀ k, Serves n (s.party c.id) true false sh₀ { s.shared with world := world, scheduler := k } :=
    fun k => h.congr rfl rfl
  cases progress with
  | ended r =>
    exact Session.serves_endFetch (s := { s with shared.world := world, shared.scheduler := k }) (hworld k) limit
  | waits fetch' =>
    dsimp only
    generalize k.isOver limit w s.shared.scheduler.steps = answer
    obtain ⟨isOver, limit', k'⟩ := answer
    cases isOver with
    | true =>
      exact Session.serves_endFetch
        (s := { s with shared.world := world, shared.scheduler := fetch'.drop (s.party c.id) k' }) (hworld _) limit'
    | false => exact hworld k'

end

/-! ### Calls -/

/-- Whether a fetch of the node is under way. -/
def Stage.isFetching : Stage W → Bool
  | .evaluated _ (.fetching ..) => true
  | .idle | .evaluated .. | .settled _ => false

/-- Whether the node waits to be let in for its fetch. -/
def Stage.isQueued : Stage W → Bool
  | .evaluated _ .queued => true
  | .idle | .evaluated .. | .settled _ => false

/--
The accounts are right as far as they are about the nodes of a call, and nothing was done for other calls since a
state that they shared before.
-/
structure Balanced (n : Nat) (sh₀ : Shared W) (s : Session W) : Prop where
  accounts : Accounts n s.shared
  fetching : ∀ id, s.party id ∈ underWay s.shared.log ↔ (s.stage id).isFetching = true
  waiting : ∀ id, s.party id ∈ s.shared.permits.waiting → (s.stage id).isQueued = true
  others : ∀ p : Party, p.1 ≠ s.call.number → (p ∈ underWay s.shared.log ↔ p ∈ underWay sh₀.log) ∧
    (p ∈ s.shared.permits.waiting → p ∈ sh₀.permits.waiting)

section

variable {g : Graph W} {n : Nat} {sh₀ : Shared W} {s t u : Session W} {id : String} {asker : Asker} {f waits : Bool}

namespace Balanced

/-- Nothing is done for a node. -/
theorem serves (h : Balanced n sh₀ s) {stage : Stage W} (hstage : s.stage id = stage) :
    Serves n (s.party id) stage.isFetching stage.isQueued s.shared s.shared := by
  obtain rfl := hstage
  exact ⟨h.accounts, h.fetching id, h.waiting id, fun _ _ => ⟨.rfl, fun hmem => hmem⟩⟩

/-- A node has been served, and is as far as it was served for. -/
theorem served (h : Balanced n sh₀ s) (hserves : Serves n (s.party id) f waits s.shared t.shared)
    (hnumber : t.call.number = s.call.number) (hothers : ∀ x, x ≠ id → t.stage x = s.stage x)
    (hfetching : (t.stage id).isFetching = f) (hqueued : waits = true → (t.stage id).isQueued = true) :
    Balanced n sh₀ t := by
  have hparty : ∀ x, t.party x = s.party x := fun x => by rw [Session.party, Session.party, hnumber]
  have hne : ∀ x, x ≠ id → s.party x ≠ s.party id := fun x hx e => hx (congrArg Prod.snd e)
  refine ⟨hserves.accounts, fun x => ?_, fun x => ?_, fun p hp => ?_⟩
  · rw [hparty]
    by_cases hx : x = id
    · rw [hx, hserves.fetching, hfetching]
    · rw [hothers x hx, (hserves.others _ (hne x hx)).1, h.fetching]
  · rw [hparty]
    by_cases hx : x = id
    · rw [hx]
      exact fun hmem => hqueued (hserves.waiting hmem)
    · rw [hothers x hx]
      exact fun hmem => h.waiting x ((hserves.others _ (hne x hx)).2 hmem)
  · rw [hnumber] at hp
    have hp' : p ≠ s.party id := fun e => hp (congrArg Prod.fst e)
    obtain ⟨hunderWay, hwaiting⟩ := hserves.others p hp'
    exact ⟨hunderWay.trans (h.others p hp).1, fun hmem => (h.others p hp).2 (hwaiting hmem)⟩

/-- The clock, the world and the gates of cells have nothing to do with permits. -/
theorem congr (h : Balanced n sh₀ s) (hnumber : t.call.number = s.call.number) (hstage : ∀ x, t.stage x = s.stage x)
    (hpermits : t.shared.permits = s.shared.permits) (hlog : t.shared.log = s.shared.log) : Balanced n sh₀ t :=
  -- whichever node it is
  h.served ((h.serves (rfl : s.stage "" = _)).congr hpermits hlog) hnumber (fun x _ => hstage x) (by rw [hstage])
    fun hqueued => by rw [hstage, hqueued]

/-- The cell of a node that has been served is brought up to date. -/
theorem altered (h : Balanced n sh₀ s) (hserves : Serves n (s.party id) f waits s.shared u.shared)
    (hcall : t.call = s.call) {es : List Event} (halters : Alters id es t u) {stage : Stage W}
    (hstage : u.stage id = stage) (hfetching : stage.isFetching = f)
    (hqueued : waits = true → stage.isQueued = true) : Balanced n sh₀ u := by
  obtain rfl := hstage
  refine h.served hserves (by rw [halters.call, hcall]) (fun x hx => ?_) hfetching hqueued
  calc u.stage x = t.stage x := Session.stage_of_alters halters hx
    _ = s.stage x := Session.stage_congr (congrArg Call.cells hcall) x

theorem settle (h : Balanced n sh₀ s) (hserves : Serves n (s.party id) false false s.shared t.shared)
    (hcall : t.call = s.call) (o : Outcome) : Balanced n sh₀ (t.settle id o) := by
  have hsettled : Serves n (s.party id) false false s.shared (t.settle id o).shared :=
    hserves.logs (e := .settled t.call.number id o) rfl rfl (fun _ => rfl) rfl
  exact h.altered hsettled hcall (t.alters_settle id o) (t.stage_settle id o) rfl nofun

theorem rephase (h : Balanced n sh₀ s) (hserves : Serves n (s.party id) f waits s.shared t.shared)
    (hcall : t.call = s.call) {phase : Phase W} (hfetching : (Stage.evaluated asker phase).isFetching = f)
    (hqueued : waits = true → (Stage.evaluated asker phase).isQueued = true) :
    Balanced n sh₀ (t.setPhase id asker phase) :=
  h.altered (hserves.congr rfl rfl) hcall (t.alters_setPhase id asker phase) (t.stage_setPhase id asker phase)
    hfetching hqueued

theorem leaveCell (h : Balanced n sh₀ s) (hserves : Serves n (s.party id) false false s.shared t.shared)
    (hcall : t.call = s.call) : Balanced n sh₀ (t.leaveCell id) :=
  h.altered (hserves.congr rfl rfl) hcall (t.alters_leaveCell id) (t.stage_leaveCell id) rfl nofun

theorem rescheduled (h : Balanced n sh₀ s) (f : Scheduler → Scheduler) : Balanced n sh₀ (reschedule s f) :=
  h.congr rfl (fun _ => rfl) rfl rfl

theorem disband {dismiss : Nat → Session W → Session W}
    (hdismiss : ∀ place s, Balanced n sh₀ s → Balanced n sh₀ (dismiss place s)) (group : Group)
    (h : Balanced n sh₀ s) : Balanced n sh₀ (group.disband dismiss s) := by
  obtain ⟨size, crowd⟩ := group
  cases crowd with
  | none => exact List.foldlRecOn _ _ h fun s hs place _ => hdismiss place s hs
  | some number =>
    refine rescheduled (List.foldlRecOn _ _ h fun s hs place _ => ?_) (·.closeCrowd number)
    exact hdismiss place _ (hs.rescheduled _)

theorem dismissAt {dismiss : Dismiss W}
    (hdismiss : ∀ asker id s, Balanced n sh₀ s → Balanced n sh₀ (dismiss asker id s)) (owner : Option String)
    (ids : List String) (place : Nat) (s : Session W) (h : Balanced n sh₀ s) :
    Balanced n sh₀ (dismissAt dismiss owner ids place s) := by
  unfold Resolver.dismissAt
  cases ids[place]? with
  | none => exact h
  | some id => exact hdismiss _ id s h

/-- Whatever a node was at when it is taken back, its permit goes back with it. -/
theorem abandon {rank : String → Nat} (hrank : Ranks g rank) (levels : Nat)
    (hdismiss : ∀ asker id s, Balanced n sh₀ s → Balanced n sh₀ (dismiss g levels asker id s)) {m : Node W}
    (hm : g.node? m.id = some m) {phase : Phase W} (h : Balanced n sh₀ s)
    (hstage : s.stage m.id = .evaluated asker phase) :
    Balanced n sh₀ ((Resolver.abandon (dismiss g levels) m phase s).leaveCell m.id) := by
  have hserves := h.serves hstage
  -- while a node waits for others nothing is done for it before it leaves its cell
  have hleave : Balanced n sh₀ (Resolver.abandon (dismiss g levels) m phase s) →
      (∃ group, phase = .joining group) ∨ (∃ e, phase = .recovering e) →
      Balanced n sh₀ ((Resolver.abandon (dismiss g levels) m phase s).leaveCell m.id) := by
    intro hafter hphase
    have hkept := (abandon_drops hrank (dismiss_drops hrank levels) hm phase s).above m.id (Nat.le_refl _)
    have hserves := hafter.serves (hkept.trans hstage)
    rcases hphase with ⟨group, rfl⟩ | ⟨e, rfl⟩ <;> exact hafter.leaveCell hserves rfl
  cases phase with
  | joining group =>
    refine hleave ?_ (.inl ⟨group, rfl⟩)
    exact h.disband (fun place s hs => hs.dismissAt hdismiss _ _ place s) group
  | queued => exact h.leaveCell (Session.serves_renouncePermit hserves) rfl
  | fetching fetch limit =>
    have hdropped : Serves n (s.party m.id) true false s.shared
        (reschedule s (fetch.drop (s.party m.id))).shared := hserves.congr rfl rfl
    exact h.leaveCell (Session.serves_endFetch (s := reschedule s (fetch.drop (s.party m.id))) hdropped limit) rfl
  | recovering e =>
    refine hleave ?_ (.inr ⟨e, rfl⟩)
    unfold Resolver.abandon
    cases m.failover with
    | none => exact h
    | some failover => exact hdismiss _ failover s h

theorem dismiss {rank : String → Nat} (hrank : Ranks g rank) (levels : Nat) (asker : Asker) (id : String)
    (s : Session W) (h : Balanced n sh₀ s) : Balanced n sh₀ (dismiss g levels asker id s) := by
  induction levels generalizing asker id s with
  | zero => exact h
  | succ levels ih =>
    rw [Resolver.dismiss]
    split
    · exact h.congr (by rw [(s.alters_renounceCell id asker).call]) (s.stage_renounceCell id asker) rfl rfl
    · split
      · next first phase m hstage hm =>
        obtain rfl := (Graph.findNode_some hm).2
        split
        · exact h.abandon hrank levels ih hm hstage
        · exact h
      · exact h

/-- A group is broken off, all the way down. -/
theorem disbandAt (h : Balanced n sh₀ s) (group : Group) (owner : Option String) (ids : List String) :
    Balanced n sh₀ (group.disband (Resolver.dismissAt (Resolver.dismiss g (levels g)) owner ids) s) := by
  obtain ⟨rank, hrank, -⟩ := exists_ranks g
  refine h.disband (fun place s hs => ?_) group
  exact hs.dismissAt (fun asker id s hs => hs.dismiss hrank (levels g) asker id s) owner ids place s

end Balanced

theorem Underway.call {w : Waker} {c : ConnectorNode W} {fetch : Strand W (Except ConnectorError AttributeMap)}
    {limit : Alarm} (h : Underway g asker w c s fetch limit t) : t.call = s.call := by
  rcases h.stretch with h | h <;> exact h.spares.call

/-- A fetch that is about to go on has its permit. -/
theorem Underway.serves {w : Waker} {c : ConnectorNode W} {fetch : Strand W (Except ConnectorError AttributeMap)}
    {limit : Alarm} (h : Underway g asker w c s fetch limit t) (hs : Balanced n sh₀ s) :
    Serves n (s.party c.id) true false s.shared t.shared := by
  cases h with
  | goesOn _ hstage => exact hs.serves hstage
  | @begins t phase _ hstage hearly _ hpermit =>
    cases phase with
    | joining | queued => exact Session.serves_began (hs.serves hstage) hpermit
    | fetching | recovering => cases hearly

theorem Underway.serves_fetchOn {w : Waker} {c : ConnectorNode W}
    {fetch : Strand W (Except ConnectorError AttributeMap)} {limit : Alarm} (h : Underway g asker w c s fetch limit t)
    (hs : Balanced n sh₀ s) {r : Option (Except ConnectorError AttributeMap)}
    (hout : Pursuit.fetchOn asker w c fetch limit t = (r, u)) :
    Serves n (s.party c.id) r.isNone false s.shared u.shared := by
  have hparty : t.party c.id = s.party c.id := by rw [Session.party, Session.party, h.call]
  have hserves := h.serves hs
  rw [← hparty] at hserves
  have hafter := Pursuit.serves_fetchOn hserves asker w fetch limit
  rwa [hout, hparty] at hafter

/-- What has come to an end by itself has no permit. -/
theorem Attempted.serves {m : Node W} {r : Except ResolutionError AttributeMap} (h : Attempted g asker m r s t)
    (hs : Balanced n sh₀ s) : Serves n (s.party m.id) false false s.shared t.shared := by
  cases h with
  | @computed _ d group _ hstage =>
    have hcomputed : Serves n (s.party d.id) false false s.shared (s.record (.computed s.call.number d.id)).shared :=
      (hs.serves hstage).logs (e := .computed s.call.number d.id) rfl rfl (fun _ => rfl) rfl
    exact hcomputed.own s.call.number d.id _ rfl rfl
  | @fetched _ u v c _ _ _ r hunderway hended =>
    exact (hunderway.serves_fetchOn hs hended).own v.call.number c.id (r.mapError (.connector c.id)) rfl rfl

theorem Attempted.call {m : Node W} {r : Except ResolutionError AttributeMap} (h : Attempted g asker m r s t) :
    t.call = s.call := by
  obtain ⟨es, hstretch⟩ := h.stretch
  exact hstretch.spares.call

/-- **Every move of a call keeps the accounts right.** -/
theorem Balanced.move {wide : Prop} {b : Bool} (h : Balanced n sh₀ s) (hs : Coherent g wide s)
    (hmove : Move g b s t) : Balanced n sh₀ t := by
  cases hmove with
  | rests hcall _ hstage _ _ hlog hpermits => exact h.congr (by rw [hcall]) hstage hpermits hlog
  | notes => exact h.congr rfl (fun _ => rfl) rfl rfl
  | embarks _ hstart =>
    obtain ⟨hcall, hlog, -⟩ := opens_start hstart
    have hpermits := permits_start hstart
    exact h.congr (by rw [← hcall]) (fun x => Session.stage_congr (by rw [hcall]) x) hpermits hlog
  | @enters _ t u m asker w group hnode henter hstart =>
    obtain ⟨hidle, halters, -⟩ := Session.enterCell_enters (hs.fits m.id) henter
    obtain ⟨hcall, hlog, -⟩ := opens_start hstart
    have hpermits : t.shared.permits = s.shared.permits := by
      rw [← show (s.enterCell m.id asker w).2 = t by rw [henter]]
      rfl
    have hstarted : Serves n (s.party m.id) false false s.shared u.shared :=
      (h.serves hidle).congr ((permits_start hstart).trans hpermits) (hlog.trans halters.log)
    have hphase := u.alters_setPhase m.id asker (.joining group)
    refine h.served (hstarted.congr rfl rfl) (by rw [hphase.call, hcall, halters.call]) (fun x hx => ?_) ?_ nofun
    · exact Session.stage_setPhase_of_ne halters hcall asker _ hx
    · rw [u.stage_setPhase]
      rfl
  | @queues _ t c asker w phase _ hstage hearly _ hpermit =>
    have htake := s.spares_takePermit c.id w
    rw [hpermit] at htake
    cases phase with
    | joining | queued =>
      exact h.rephase (Session.serves_queued (h.serves hstage) hpermit) htake.call rfl fun _ => rfl
    | fetching | recovering => cases hearly
  | fetches hunderway hwaits =>
    have hafter := hunderway.serves_fetchOn h hwaits
    obtain ⟨es, t', fetch', limit', hstretch, rfl⟩ := hunderway.waits hwaits
    exact h.rephase (t := t') (hafter.congr rfl rfl) hstretch.spares.call rfl nofun
  | succeeds hattempted | isSpared hattempted | breaks hattempted =>
    exact h.settle (hattempted.serves h) hattempted.call _
  | turnsOver hattempted => exact h.rephase (hattempted.serves h) hattempted.call rfl nofun
  | adopts _ _ hstage => exact h.settle (h.serves hstage) rfl _
  | falls hfalls =>
    cases hfalls with
    | givesUp _ _ hstage => exact h.settle (h.serves hstage) rfl _
    | @follows t m asker group _ _ hstage _ _ _ hkept hdisbanded =>
      have hafter : Balanced n sh₀ t := hdisbanded ▸ h.disbandAt group _ _
      exact hafter.settle (hafter.serves (hkept.trans hstage)) rfl _

theorem BreaksOff.balanced {r : Resolver W} (h : BreaksOff r s t) (hs : Balanced n sh₀ s) : Balanced n sh₀ t := by
  cases h with
  | idle => exact hs
  | roots => exact hs.disbandAt _ none _

theorem Balanced.finish (h : Balanced n sh₀ s) (ending : Ending) : Balanced n sh₀ (finish ending s) :=
  h.congr rfl (fun _ => rfl) rfl rfl

theorem Closes.balanced {r : Resolver W} {b : Bool} (h : Closes r b s t) (hs : Balanced n sh₀ s) :
    Balanced n sh₀ t := by
  cases h with
  | waits => exact hs
  | returns => exact hs.finish _
  | breaks _ _ _ _ hbreaks => exact (hbreaks.balanced hs).finish _
  | leaves _ _ hbreaks => exact (hbreaks.balanced hs).finish _

theorem Moves.balanced {wide : Prop} {b : Bool} (h : Moves g wide s b t) (hs : Coherent g wide s)
    (hbalanced : Balanced n sh₀ s) : Balanced n sh₀ t :=
  h.keeps hs (fun _ _ _ hc hmove hb => hb.move hc hmove) hbalanced

end

end Resolver

end AttributeRelease
