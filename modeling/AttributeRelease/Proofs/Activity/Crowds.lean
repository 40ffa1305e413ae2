import AttributeRelease.Activity.Strand

/-!
What a scheduler does to its clock and to its crowds. Waking, waiting and cancelling leave the clock alone,
and in a crowd they change no more than who is to be given a turn: nobody leaves it and nobody fails. So
whatever is known about the members of a crowd outlasts everything but the turns of the crowd itself.
-/

namespace AttributeRelease

/-- For each place of a crowd whether its member has not ended, and whether it has failed. -/
def Crowd.register (c : Crowd) (place : Nat) : Bool × Bool :=
  (c.alive.contains place, c.failed.contains place)

namespace Scheduler

/-- The register of a crowd that is under way. -/
def register (k : Scheduler) (number : Nat) : Option (Nat → Bool × Bool) :=
  (k.crowd? number).map Crowd.register

theorem lookup_alter (crowds : List (Nat × Crowd)) (number : Nat) (f : Crowd → Crowd) (n : Nat) :
    (crowds.map fun e => if e.1 = number then (e.1, f e.2) else e).lookup n =
      if n = number then (crowds.lookup n).map f else crowds.lookup n := by
  induction crowds with
  | nil => simp
  | cons e rest ih =>
    obtain ⟨m, c⟩ := e
    rw [List.map_cons]
    by_cases hm : m = number
    · subst hm
      rw [if_pos rfl]
      by_cases hn : n = m
      · simp [hn]
      · rw [List.lookup_cons, List.lookup_cons, beq_false_of_ne hn, ih]
    · rw [if_neg hm]
      by_cases hn : n = m
      · subst hn
        simp [hm]
      · rw [List.lookup_cons, List.lookup_cons, beq_false_of_ne hn, ih]

theorem crowd?_alterCrowd (k : Scheduler) (number : Nat) (f : Crowd → Crowd) (n : Nat) :
    (k.alterCrowd number f).crowd? n = if n = number then (k.crowd? n).map f else k.crowd? n :=
  lookup_alter k.crowds number f n

theorem register_alterCrowd_self (k : Scheduler) (number : Nat) (f : Crowd → Crowd) :
    (k.alterCrowd number f).register number = (k.crowd? number).map fun c => (f c).register := by
  rw [register, crowd?_alterCrowd, if_pos rfl, Option.map_map]
  rfl

theorem register_alterCrowd_of_ne (k : Scheduler) {number n : Nat} (h : n ≠ number) (f : Crowd → Crowd) :
    (k.alterCrowd number f).register n = k.register n := by
  rw [register, crowd?_alterCrowd, if_neg h, register]

theorem register_alterCrowd_of_eq (k : Scheduler) (number : Nat) {f : Crowd → Crowd}
    (hf : ∀ c, (f c).register = c.register) (n : Nat) : (k.alterCrowd number f).register n = k.register n := by
  by_cases h : n = number
  · subst h
    rw [register_alterCrowd_self, register]
    simp only [hf]
  · exact k.register_alterCrowd_of_ne h f

theorem register_openCrowd_self (k : Scheduler) (size : Nat) :
    (k.openCrowd size).register k.unused = some fun place => (decide (place < size), false) := by
  simp only [register, crowd?, openCrowd, List.lookup_cons_self, Option.map_some, Option.some.injEq]
  funext place
  simp [Crowd.register, List.contains_eq_mem]

theorem register_openCrowd_of_ne (k : Scheduler) (size : Nat) {n : Nat} (h : n ≠ k.unused) :
    (k.openCrowd size).register n = k.register n := by
  simp only [register, crowd?, openCrowd, List.lookup_cons, beq_false_of_ne h]

theorem register_closeCrowd_self (k : Scheduler) (number : Nat) :
    (k.closeCrowd number).register number = none := by
  have h : (k.crowds.filter (·.1 ≠ number)).lookup number = none := by
    rw [List.lookup_eq_none_iff]
    intro e he
    have hne := of_decide_eq_true (List.mem_filter.1 he).2
    exact bne_iff_ne.2 fun h => hne h.symm
  rw [register, crowd?, closeCrowd, h, Option.map_none]

theorem register_closeCrowd_of_ne (k : Scheduler) {number n : Nat} (h : n ≠ number) :
    (k.closeCrowd number).register n = k.register n := by
  have hlookup : ∀ crowds : List (Nat × Crowd),
      (crowds.filter (·.1 ≠ number)).lookup n = crowds.lookup n := by
    intro crowds
    induction crowds with
    | nil => rfl
    | cons e rest ih =>
      obtain ⟨m, c⟩ := e
      by_cases hm : m = number
      · have hnm : n ≠ m := hm ▸ h
        rw [List.filter_cons_of_neg (by simpa using hm), ih, List.lookup_cons, beq_false_of_ne hnm]
      · rw [List.filter_cons_of_pos (by simpa using hm), List.lookup_cons, List.lookup_cons, ih]
  rw [register, crowd?, closeCrowd, hlookup, register, crowd?]

/-- The clock stands, nothing that was numbered is numbered again, and all registers stay as they are. -/
structure Quiet (k k' : Scheduler) : Prop where
  clock : k'.clock = k.clock
  unused : k.unused ≤ k'.unused
  register : ∀ n, k'.register n = k.register n

namespace Quiet

theorem refl (k : Scheduler) : Quiet k k := ⟨rfl, Nat.le_refl _, fun _ => rfl⟩

theorem trans {k₁ k₂ k₃ : Scheduler} (h : Quiet k₁ k₂) (h' : Quiet k₂ k₃) : Quiet k₁ k₃ :=
  ⟨h'.clock.trans h.clock, Nat.le_trans h.unused h'.unused, fun n => (h'.register n).trans (h.register n)⟩

/-- A change of anything but the clock, the crowds and the numbers. -/
theorem of_crowds {k k' : Scheduler} (hclock : k'.clock = k.clock) (hunused : k.unused ≤ k'.unused)
    (hcrowds : k'.crowds = k.crowds) : Quiet k k' :=
  ⟨hclock, hunused, fun n => by rw [Scheduler.register, Scheduler.register, crowd?, crowd?, hcrowds]⟩

theorem foldl {α : Type} {f : Scheduler → α → Scheduler} (hf : ∀ k a, Quiet k (f k a)) (as : List α)
    (k : Scheduler) : Quiet k (as.foldl f k) := by
  induction as generalizing k with
  | nil => exact refl k
  | cons a rest ih => exact (hf k a).trans (ih (f k a))

end Quiet

theorem quiet_alterCrowd (k : Scheduler) (number : Nat) {f : Crowd → Crowd}
    (hf : ∀ c, (f c).register = c.register) : Quiet k (k.alterCrowd number f) :=
  ⟨rfl, Nat.le_refl _, k.register_alterCrowd_of_eq number hf⟩

theorem quiet_wakeWithin (levels : Nat) (w : Waker) (k : Scheduler) : Quiet k (wakeWithin levels w k) := by
  induction levels generalizing w k with
  | zero =>
    cases w with
    | driver => exact .of_crowds rfl (Nat.le_refl _) rfl
    | member => exact .refl k
  | succ levels ih =>
    cases w with
    | driver => exact .of_crowds rfl (Nat.le_refl _) rfl
    | member number place =>
      rw [wakeWithin]
      cases k.crowd? number with
      | none => exact .refl k
      | some c =>
        dsimp only
        split
        · have halter := quiet_alterCrowd k number
            (f := fun c => { c with ready := c.ready ++ [place], caller := none }) fun _ => rfl
          cases c.caller with
          | none => exact halter
          | some w => exact halter.trans (ih w _)
        · exact .refl k

theorem quiet_wake (k : Scheduler) (w : Waker) : Quiet k (k.wake w) := quiet_wakeWithin _ w k

theorem quiet_wakeAny (k : Scheduler) (w : Option Waker) : Quiet k (k.wakeAny w) := by
  cases w with
  | none => exact .refl k
  | some w => exact quiet_wake k w

theorem quiet_postpone (k : Scheduler) (w : Waker) : Quiet k (k.postpone w) := by
  rw [postpone]
  split
  · exact .refl k
  · exact .of_crowds rfl (Nat.le_refl _) rfl

theorem quiet_step (k : Scheduler) : Quiet k k.step := .of_crowds rfl (Nat.le_refl _) rfl

theorem quiet_cancel (k : Scheduler) (a : Alarm) : Quiet k (k.cancel a) :=
  .of_crowds rfl (Nat.le_refl _) rfl

theorem quiet_pass {τ : Type} [DecidableEq τ] (k : Scheduler) (g : Gate τ) (t : τ) (w : Waker) :
    Quiet k (k.pass g t w).2.2 := by
  unfold pass
  dsimp only
  split
  · dsimp only
    split
    · exact .refl k
    · exact quiet_postpone k w
  · exact quiet_step k

theorem quiet_take (k : Scheduler) (name : String) (who : Party) (w : Waker) :
    Quiet k (k.take name who w).2 :=
  (quiet_pass k (k.lock name) who w).trans (.of_crowds rfl (Nat.le_refl _) rfl)

theorem quiet_giveBack (k : Scheduler) (name : String) : Quiet k (k.giveBack name) := by
  have hlock : Quiet k { k with locks := k.locks.insert name (k.lock name).leave.2 } :=
    .of_crowds rfl (Nat.le_refl _) rfl
  exact hlock.trans (quiet_wakeAny _ _)

theorem quiet_renounce (k : Scheduler) (name : String) (who : Party) : Quiet k (k.renounce name who) := by
  have hlock : Quiet k { k with locks := k.locks.insert name ((k.lock name).withdraw who).2 } :=
    .of_crowds rfl (Nat.le_refl _) rfl
  exact hlock.trans (quiet_wakeAny _ _)

theorem quiet_rings (k : Scheduler) (a : Alarm) (w : Waker) (isFree : Bool) :
    Quiet k (k.rings a w isFree).2.2 := by
  unfold rings
  split
  · exact quiet_postpone k w
  · split
    · dsimp only
      split
      · exact .refl k
      · exact quiet_step k
    · cases a.number with
      | some _ => exact .refl k
      | none => exact .of_crowds rfl (Nat.le_succ _) rfl

theorem quiet_isOver (k : Scheduler) (limit : Alarm) (w : Waker) (stepsBefore : Nat) :
    Quiet k (k.isOver limit w stepsBefore).2.2 := quiet_rings k limit w _

end Scheduler

namespace Strand

open Scheduler

variable {W α : Type}

theorem quiet_advance (who : Party) (w : Waker) (a : Activity W α) (world : W) (k : Scheduler) :
    Quiet k (advance who w a world k).2.2 := by
  induction a generalizing world k with
  | done => exact .refl k
  | act change next ih => exact ih world (change world) k
  | guarded lock change next ih =>
    rw [advance]
    have htake := quiet_take k lock who w
    cases h : k.take lock who w with
    | mk isIn k' =>
      rw [h] at htake
      cases isIn with
      | true => exact (htake.trans (quiet_giveBack k' lock)).trans (ih world (change world) _)
      | false => exact htake
  | sleep ms next ih =>
    rw [advance]
    have hrings := quiet_rings k (k.alarm ms) w false
    cases h : k.rings (k.alarm ms) w false with
    | mk rings rest =>
      rw [h] at hrings
      cases rings with
      | true => exact hrings.trans (ih world rest.2)
      | false => exact hrings
  | pause next => exact quiet_postpone k w

theorem quiet_goOn (who : Party) (w : Waker) (s : Strand W α) (world : W) (k : Scheduler) :
    Quiet k (s.goOn who w world k).2.2 := by
  cases s with
  | poised a => exact quiet_advance who w a world k
  | asleep alarm next =>
    rw [goOn]
    have hrings := quiet_rings k alarm w false
    cases h : k.rings alarm w false with
    | mk rings rest =>
      rw [h] at hrings
      cases rings with
      | true => exact hrings.trans (quiet_advance who w next world rest.2)
      | false => exact hrings

theorem quiet_drop (who : Party) (s : Strand W α) (k : Scheduler) : Quiet k (s.drop who k) := by
  cases s with
  | poised a =>
    cases a with
    | guarded lock change next => exact quiet_renounce k lock who
    | done | act | sleep | pause => exact .refl k
  | asleep alarm next => exact quiet_cancel k alarm

end Strand

end AttributeRelease
