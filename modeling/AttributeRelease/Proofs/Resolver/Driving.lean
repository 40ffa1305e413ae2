import AttributeRelease.Proofs.Resolver.Evaluation

/-!
Calls that are driven. Calls that run side by side are a group themselves, whose members are given turns as they
are woken, and between turns the clock moves on when nobody was. All of it is made of steps of the calls: what
holds in every state that calls can come to, holds of calls that are run.
-/

namespace AttributeRelease

section

variable {S : Type} [Scheduled S] {P : S → Prop} {turn : Waker → Nat → S → Standing × S}

namespace Group

omit [Scheduled S] in
/-- What is kept by every turn of a member is kept by turns in order. -/
theorem turnInOrder_keeps (hturn : ∀ w place s, P s → P (turn w place s).2) (w : Waker) (places : List Nat)
    (allEnded : Bool) {s : S} (h : P s) : P (turnInOrder turn w places allEnded s).2 := by
  induction places generalizing allEnded s with
  | nil => exact h
  | cons place rest ih =>
    rw [turnInOrder]
    have hafter := hturn w place s h
    cases hout : turn w place s with
    | mk standing t =>
      rw [hout] at hafter
      cases standing with
      | waits | ended => exact ih _ hafter
      | failed => exact hafter

/-- In a crowd it must be kept by changes of that crowd, too, and when somebody is woken. -/
theorem turnReady_keeps (hturn : ∀ w place s, P s → P (turn w place s).2) {number : Nat}
    (halter : ∀ f s, P s → P (reschedule s fun k => k.alterCrowd number f))
    (hwake : ∀ w s, P s → P (reschedule s fun k => k.wake w)) (w : Waker) (size fuel left again : Nat) {s : S}
    (h : P s) : P (turnReady turn w size number fuel left again s).2 := by
  induction fuel generalizing left again s with
  | zero => exact h
  | succ fuel ih =>
    rw [turnReady]
    cases (scheduler s).crowd? number with
    | none => exact h
    | some c =>
      dsimp only
      cases c.ready with
      | nil => exact h
      | cons place ready =>
        dsimp only
        have htaken := halter (fun c => { c with ready }) s h
        split
        · exact ih _ _ htaken
        · have hafter := hturn (.member number place) place _ htaken
          cases hout : turn (.member number place) place
              (reschedule s fun k => k.alterCrowd number fun c => { c with ready }) with
          | mk standing t =>
            rw [hout] at hafter
            cases standing with
            | waits =>
              dsimp only
              have hput := halter (fun c => { c with alive := c.alive.erase place ++ [place] }) t hafter
              generalize (if Option.any _ _ = true then again + 1 else again) = again'
              split
              · exact hwake w _ hput
              · exact ih _ _ hput
            | ended | failed =>
              dsimp only
              have hgone := fun f => halter f t hafter
              split
              · exact hgone _
              · split
                · exact ih _ _ (hgone _)
                · exact hgone _

theorem turn_keeps {g : Group} (hturn : ∀ w place s, P s → P (turn w place s).2)
    (halter : ∀ number, g.crowd = some number → ∀ f s, P s → P (reschedule s fun k => k.alterCrowd number f))
    (hwake : ∀ w s, P s → P (reschedule s fun k => k.wake w)) (w : Waker) {s : S} (h : P s) :
    P (g.turn turn w s).2 := by
  unfold Group.turn
  cases hcrowd : g.crowd with
  | none => exact turnInOrder_keeps hturn w _ true h
  | some number =>
    have halter := halter number hcrowd
    exact turnReady_keeps hturn halter hwake w _ _ _ _ (halter _ s h)

end Group

/-- What is kept by every turn, and when the next turn comes, is kept as long as turns are given. -/
theorem drive_keeps {turn : S → Bool × S} (hturn : ∀ s, P s → P (turn s).2)
    (hnext : ∀ s k, P s → (scheduler s).nextTurn? = some k → P (reschedule s fun _ => k)) (fuel : Nat) {s : S}
    (h : P s) : P (drive turn fuel s) := by
  induction fuel generalizing s with
  | zero => exact h
  | succ fuel ih =>
    rw [drive]
    have hafter := hturn s h
    cases hout : turn s with
    | mk isOver t =>
      rw [hout] at hafter
      cases isOver with
      | true => exact hafter
      | false =>
        dsimp only
        cases hcoming : (scheduler t).nextTurn? with
        | none => exact hafter
        | some k => exact ih (hnext t k hafter hcoming)

end

/-! ### Time that passes -/

namespace Scheduler

/-- Time may pass, and one crowd may be changed. -/
structure Passes (crowd : Option Nat) (k k' : Scheduler) : Prop where
  clock : k.clock ≤ k'.clock
  unused : k.unused ≤ k'.unused
  register : ∀ n, crowd ≠ some n → k'.register n = k.register n

variable {crowd : Option Nat} {k k' : Scheduler}

theorem Quiet.passes (h : Quiet k k') : Passes crowd k k' where
  clock := Nat.le_of_eq h.clock.symm
  unused := h.unused
  register n _ := h.register n

theorem Passes.trans {k₁ k₂ k₃ : Scheduler} (h : Passes crowd k₁ k₂) (h' : Passes crowd k₂ k₃) :
    Passes crowd k₁ k₃ where
  clock := Nat.le_trans h.clock h'.clock
  unused := Nat.le_trans h.unused h'.unused
  register n hn := (h'.register n hn).trans (h.register n hn)

theorem passes_alterCrowd (k : Scheduler) (number : Nat) (f : Crowd → Crowd) :
    Passes (some number) k (k.alterCrowd number f) where
  clock := Nat.le_refl _
  unused := Nat.le_refl _
  register _ hn := k.register_alterCrowd_of_ne (fun h => hn (congrArg some h.symm)) f

theorem passes_closeCrowd (k : Scheduler) (number : Nat) : Passes (some number) k (k.closeCrowd number) where
  clock := Nat.le_refl _
  unused := Nat.le_refl _
  register _ hn := k.register_closeCrowd_of_ne fun h => hn (congrArg some h.symm)

theorem moveOn?_passes (h : k.moveOn? = some k') : Passes crowd k k' := by
  obtain ⟨due, -, rfl⟩ := Option.map_eq_some_iff.1 h
  have hmoved : Passes crowd k { k with
      clock := max k.clock due
      timers := (k.timers.partition (·.due ≤ max k.clock due)).2 } :=
    ⟨Nat.le_max_left _ _, Nat.le_refl _, fun _ _ => rfl⟩
  exact hmoved.trans (Quiet.foldl quiet_wake _ _).passes

theorem nextTurnWithin_passes (moves : Nat) (h : nextTurnWithin moves k = some k') : Passes crowd k k' := by
  induction moves generalizing k with
  | zero => cases h
  | succ moves ih =>
    rw [nextTurnWithin] at h
    split at h
    · obtain rfl := Option.some.inj h
      have hnext : Quiet k { k with woken := false, steps := stepsPerTurn } := .of_crowds rfl (Nat.le_refl _) rfl
      exact hnext.passes
    · obtain ⟨k₁, hmove, hrest⟩ := Option.bind_eq_some_iff.1 h
      exact (moveOn?_passes hmove).trans (ih hrest)

/-- Until the next turn nobody leaves a crowd. -/
theorem nextTurn?_passes (h : k.nextTurn? = some k') : Passes crowd k k' := by
  have htaken : Quiet k { k with postponed := [] } := .of_crowds rfl (Nat.le_refl _) rfl
  have hwoken : Quiet k k.wakePostponed := htaken.trans (Quiet.foldl quiet_wake _ _)
  exact hwoken.passes.trans (nextTurnWithin_passes _ h)

end Scheduler

namespace Resolver

variable {W : Type} {r : Resolver W} {crowd : Option Nat} {s : Sessions W}

/-- Whatever the clock shows. -/
def Anytime (_ : Call W) (_ : Nat) : Prop := True

/-- Calls that have come so far, while they are members of a group whose crowd none of them has. -/
structure Driven (r : Resolver W) (crowd : Option Nat) (s : Sessions W) : Prop where
  reachable : Reachable r Anytime s
  numbered : ∀ n, crowd = some n → n < s.shared.scheduler.unused
  apart : ∀ n, crowd = some n → ∀ c ∈ s.calls, c.ending = none → ∀ holder, ¬ Session.Owns ⟨c, s.shared⟩ holder n

namespace Driven

/-- A call has its turn. -/
theorem turn (h : Driven r crowd s) (w : Waker) (place : Nat) : Driven r crowd (r.turn w place s).2 := by
  have hreachable : Reachable r Anytime (r.turn w place s).2 := h.reachable.step (.turns w place)
  unfold Resolver.turn at hreachable ⊢
  cases hc : s.calls[place]? with
  | none => exact h
  | some c =>
    rw [hc] at hreachable
    dsimp only at hreachable ⊢
    split
    · exact h
    · next hopen =>
      rw [if_neg hopen] at hreachable
      have hending : c.ending = none := Option.not_isSome_iff_eq_none.1 hopen
      have hcoherent := h.reachable.sound.coherent place c hc hending
      obtain ⟨b, t, hmoves, hcloses⟩ := goOn_closes r w hcoherent
      have hbeside := (hmoves.beside hcoherent).trans hcloses.beside
      refine ⟨hreachable, fun n hn => Nat.lt_of_lt_of_le (h.numbered n hn) hbeside.unused,
        fun n hn a ha hopen holder howns => ?_⟩
      obtain ⟨i, hi⟩ := List.mem_iff_getElem?.1 ha
      rcases getElem?_set_cases hc hi with ⟨-, rfl⟩ | ⟨-, hi⟩
      · rcases hbeside.owns holder n howns with ⟨holder', hold⟩ | hnew
        · exact h.apart n hn c (List.mem_of_getElem? hc) hending holder' hold
        · exact absurd (h.numbered n hn) (Nat.not_lt.2 hnew)
      · exact h.apart n hn a (List.mem_of_getElem? hi) hopen holder howns

/-- The group is looked after, or time passes. -/
theorem passes (h : Driven r crowd s) {k : Scheduler} (hpasses : s.shared.scheduler.Passes crowd k) :
    Driven r crowd { s with shared.scheduler := k } where
  reachable := by
    have hstep : Step r Anytime s { s with shared.scheduler := k } := by
      refine .passes (fun c hc => ⟨hpasses.clock, hpasses.unused, fun hending holder n howns => ?_,
        ⟨[], rfl, fun _ he => absurd he List.not_mem_nil⟩, rfl⟩) fun _ _ _ => .inr trivial
      exact hpasses.register n fun hcrowd => h.apart n hcrowd c hc hending holder howns
    exact h.reachable.step hstep
  numbered n hn := Nat.lt_of_lt_of_le (h.numbered n hn) hpasses.unused
  apart := h.apart

/-- The group has a turn of the driver. -/
theorem drive {group : Group} (h : Driven r group.crowd s) (fuel : Nat) :
    Driven r group.crowd (drive (fun s =>
      match group.turn r.turn .driver s with
      | (.waits, s) => (false, s)
      | (_, s) => (true, s)) fuel s) := by
  refine drive_keeps (fun s h => ?_) (fun s k h hnext => h.passes (Scheduler.nextTurn?_passes hnext)) fuel h
  have hafter := Group.turn_keeps (fun w place s h => h.turn w place)
    (fun number hnumber f s h => h.passes (hnumber ▸ Scheduler.passes_alterCrowd _ number f))
    (fun w s h => h.passes (Scheduler.quiet_wake _ w).passes) .driver h
  cases hout : group.turn r.turn .driver s with
  | mk verdict t =>
    rw [hout] at hafter
    cases verdict with
    | waits | ended | failed => exact hafter

theorem close {group : Group} (h : Driven r group.crowd s) : Driven r group.crowd (group.close s) := by
  obtain ⟨size, crowd⟩ := group
  cases crowd with
  | none => exact h
  | some number => exact h.passes (Scheduler.passes_closeCrowd _ number)

end Driven

/-- A group of calls is started. -/
theorem driven_start (hs : Reachable r Anytime s) (hfresh : ∀ c ∈ s.calls, c.Fresh) (size : Nat) :
    Driven r (Group.start size s).1.crowd (Group.start size s).2 := by
  unfold Group.start
  split
  · exact ⟨hs, nofun, nofun⟩
  · have howns : ∀ c ∈ s.calls, ∀ (sh : Shared W) holder n, ¬ Session.Owns ⟨c, sh⟩ holder n := fun c hc sh =>
      (hfresh c hc).not_owns sh
    refine ⟨?_, ?_, fun n _ c hc _ holder => howns c hc _ holder n⟩
    · refine hs.step (.passes (fun c hc => ?_) fun _ _ _ => .inr trivial)
      exact ⟨Nat.le_refl _, Nat.le_succ _, fun _ holder n h => absurd h (howns c hc _ holder n),
        ⟨[], rfl, fun _ he => absurd he List.not_mem_nil⟩, rfl⟩
    · rintro n ⟨⟩
      exact Nat.lt_succ_self _

/-- **What is run can be reached.** Calls that are run side by side take steps, as many as they are given. -/
theorem run_reachable (r : Resolver W) {calls : List (Call W)} (hfresh : ∀ c ∈ calls, c.Fresh)
    (hnumbers : (calls.map Call.number).Nodup) (fuel : Nat) (world : W) :
    Reachable r Anytime ⟨(r.run fuel calls (r.shared world)).1, (r.run fuel calls (r.shared world)).2⟩ := by
  have hdriven := driven_start (reachable_of_fresh r Anytime world hfresh hnumbers) hfresh calls.length
  exact (hdriven.drive fuel).close.reachable

/-- So the nodes of calls that are run are evaluated once. -/
theorem run_evaluatesOnce (r : Resolver W) {calls : List (Call W)} (hfresh : ∀ c ∈ calls, c.Fresh)
    (hnumbers : (calls.map Call.number).Nodup) (fuel : Nat) (world : W) :
    ∀ c ∈ (r.run fuel calls (r.shared world)).1, EvaluatesOnce r c (r.run fuel calls (r.shared world)).2.log :=
  fun _ hc => (run_reachable r hfresh hnumbers fuel world).evaluatesOnce hc

namespace Crowded

/-- A root that is there at once. -/
def bystander (place : Nat) : Node Unit :=
  .definition { id := String.ofList (List.replicate (place + 1) 'k'), definition := .constant [] }

/-- Two roots need `shared`, one of them also `broken`, which fails while `shared` is being fetched. -/
def nodes : List (Node Unit) :=
  [.connector { id := "slow", connector := Sample.after 100 (.ok .empty) },
    .definition { id := "first", dependencies := [{ node := "shared" }, { node := "broken" }], definition := .simple },
    .definition { id := "second", dependencies := [{ node := "shared" }], definition := .simple },
    .connector { id := "shared", exportedKeys := some [], connector := Sample.after 50 (.ok .empty) },
    .connector { id := "broken", exportedKeys := some [], connector := Sample.after 10 (.error (.backend "down")) }] ++
    (List.range 28).map bystander

def resolver : Resolver Unit := { graph := ⟨nodes, by decide +kernel⟩ }

/--
With one root more than are given turns in order a node may begin twice: the crowd goes on without the root that
has failed, and the other one fetches `shared` again.
-/
theorem begins_twice : (resolver.graph.roots (Sample.call 0).requested).length = Group.maxInOrder + 1 ∧
    (resolver.run 10 [Sample.call 0] (resolver.shared ())).2.log.countP (Event.starts 0 "shared") = 2 := by
  decide +kernel

end Crowded

end Resolver

end AttributeRelease
