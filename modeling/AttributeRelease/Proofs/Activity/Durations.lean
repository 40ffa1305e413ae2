import AttributeRelease.Proofs.Activity.Crowds

/-!
How long activities last. An activity that only changes the world and waits for some time comes to its end
after all the time it has waited for, whatever the world is and whatever goes on beside it, as long as it is
given a turn whenever its time has come. That it has no steps left in a turn puts its end off to a later turn,
but not to a later time.
-/

namespace AttributeRelease

namespace Activity

variable {W α : Type}

/-- The activity ends with this value and without waiting, whatever the world is. -/
inductive Prompt (v : α) : Activity W α → Prop
  | done : Prompt v (.done v)
  | act {change : W → W} {next : W → Activity W α} (h : ∀ world, Prompt v (next world)) :
    Prompt v (.act change next)

/--
The activity lasts so many milliseconds and ends with this value, whatever the world is. When it has waited
for all that time nothing is left to wait for.
-/
inductive Lasts (v : α) : Nat → Activity W α → Prop
  | done : Lasts v 0 (.done v)
  | act {ms : Nat} {change : W → W} {next : W → Activity W α} (h : ∀ world, Lasts v ms (next world)) :
    Lasts v ms (.act change next)
  | sleep {ms rest : Nat} {next : Activity W α} (h : Lasts v rest next) (hlast : rest = 0 → Prompt v next) :
    Lasts v (waitOf ms + rest) (.sleep ms next)
  | pause {rest : Nat} {next : Activity W α} (h : Lasts v rest next) (hlast : 0 < rest) :
    Lasts v rest (.pause next)

/-- With nobody else around it ends after that time with that value. -/
theorem Lasts.runAlone {v : α} {ms : Nat} {a : Activity W α} (h : a.Lasts v ms) (now : Nat) (world : W) :
    (a.runAlone now world).1 = v ∧ (a.runAlone now world).2.1 = now + ms := by
  induction h generalizing now world with
  | done => exact ⟨rfl, rfl⟩
  | @act _ change _ _ ih => exact ih world now (change world)
  | @sleep ms rest _ _ _ ih =>
    obtain ⟨hvalue, htime⟩ := ih (now + waitOf ms) world
    exact ⟨hvalue, htime.trans (Nat.add_assoc now (waitOf ms) rest)⟩
  | pause _ _ ih => exact ih now world

end Activity

namespace Scheduler

/-- An alarm that does not ring keeps its time, and takes no step; its time is yet to come, or no step is left. -/
theorem rings_false (k : Scheduler) (a : Alarm) (w : Waker) (isFree : Bool) (h : (k.rings a w isFree).1 = false) :
    (k.rings a w isFree).2.1.due = a.due ∧ (k.rings a w isFree).2.2.steps = k.steps ∧
      (k.clock < a.due ∨ isFree = false ∧ k.steps = 0) := by
  unfold rings at h ⊢
  by_cases hsteps : !isFree ∧ k.steps = 0
  · rw [if_pos hsteps]
    refine ⟨rfl, ?_, .inr ⟨by simpa using hsteps.1, hsteps.2⟩⟩
    unfold postpone
    split
    · rfl
    · rfl
  · rw [if_neg hsteps] at h ⊢
    by_cases hdue : a.due ≤ k.clock
    · rw [if_pos hdue] at h
      cases h
    · rw [if_neg hdue]
      cases a.number with
      | some _ => exact ⟨rfl, rfl, .inl (Nat.lt_of_not_le hdue)⟩
      | none => exact ⟨rfl, rfl, .inl (Nat.lt_of_not_le hdue)⟩

/-- An alarm rings when its time has come, in a turn that has a step left for it unless the look is free. -/
theorem rings_true (k : Scheduler) (a : Alarm) (w : Waker) (isFree : Bool) (h : (k.rings a w isFree).1 = true) :
    a.due ≤ k.clock ∧ (isFree = true ∨ k.steps ≠ 0) := by
  unfold rings at h
  by_cases hsteps : !isFree ∧ k.steps = 0
  · rw [if_pos hsteps] at h
    cases h
  · rw [if_neg hsteps] at h
    by_cases hdue : a.due ≤ k.clock
    · refine ⟨hdue, ?_⟩
      cases isFree with
      | true => exact .inl rfl
      | false => exact .inr fun hzero => hsteps ⟨rfl, hzero⟩
    · rw [if_neg hdue] at h
      cases hnumber : a.number with
      | some _ =>
        rw [hnumber] at h
        cases h
      | none =>
        rw [hnumber] at h
        cases h

end Scheduler

namespace Strand

open Activity Scheduler

variable {W α : Type} {v : α} {now finish : Nat}

/-- The strand is now on its way to end at some time with this value. -/
inductive Ends (v : α) (now finish : Nat) : Strand W α → Prop
  | poised {a : Activity W α} {rest : Nat} (h : a.Lasts v rest) (hfinish : now + rest = finish) :
    Ends v now finish (.poised a)
  | asleep {alarm : Alarm} {next : Activity W α} {rest : Nat} (h : next.Lasts v rest)
    (hlast : rest = 0 → next.Prompt v) (hdue : now ≤ alarm.due) (hfinish : alarm.due + rest = finish) :
    Ends v now finish (.asleep alarm next)

theorem Ends.le {s : Strand W α} (h : s.Ends v now finish) : now ≤ finish := by
  cases h with
  | poised _ hfinish => omega
  | asleep _ _ hdue hfinish => omega

/-- The strand lets the clock move on to this time. -/
def Admits (s : Strand W α) (time : Nat) : Prop :=
  match s with
  | .poised _ => False
  | .asleep alarm _ => time ≤ alarm.due

instance (s : Strand W α) (time : Nat) : Decidable (s.Admits time) :=
  match s with
  | .poised _ => .isFalse id
  | .asleep alarm _ => inferInstanceAs (Decidable (time ≤ alarm.due))

theorem Ends.moveOn {s : Strand W α} (h : s.Ends v now finish) {time : Nat} (hadmits : s.Admits time) :
    s.Ends v time finish := by
  cases h with
  | poised => exact hadmits.elim
  | asleep hnext hlast _ hfinish => exact .asleep hnext hlast hadmits hfinish

/--
How a strand comes out of a turn. It has ended if it is time, and waits otherwise. Only if the turn had no
steps it may wait although it is time, and there are none left then.
-/
inductive Timely (v : α) (now finish steps : Nat) : Progress W α → Scheduler → Prop
  | ended {k : Scheduler} (h : finish = now) : Timely v now finish steps (.ended v) k
  | waits {s : Strand W α} {k : Scheduler} (h : s.Ends v now finish)
    (hsteps : finish = now → steps = 0 ∧ k.steps = 0) : Timely v now finish steps (.waits s) k

/-- Before it is time it does not matter how many steps there were. -/
theorem Timely.of_lt {steps steps' : Nat} {r : Progress W α} {k : Scheduler} (h : Timely v now finish steps r k)
    (hlt : now < finish) : Timely v now finish steps' r k := by
  cases h with
  | ended hfinish => omega
  | waits hends => exact .waits hends fun hfinish => by omega

theorem advance_prompt {a : Activity W α} (h : a.Prompt v) (who : Party) (w : Waker) (world : W) (k : Scheduler) :
    (advance who w a world k).1 = .ended v := by
  induction h generalizing world with
  | done => rfl
  | @act change _ _ ih => exact ih world (change world)

/-- A strand that sleeps goes on when its time has come. -/
theorem asleep_timely {next : Activity W α} {rest : Nat} (hnext : next.Lasts v rest)
    (hlast : rest = 0 → next.Prompt v) {who : Party} {w : Waker}
    (hadvance : ∀ world k, Timely v k.clock (k.clock + rest) k.steps (advance who w next world k).1
      (advance who w next world k).2.2) {k : Scheduler} {alarm : Alarm} (hdue : k.clock ≤ alarm.due) (world : W) :
    Timely v k.clock (alarm.due + rest) k.steps (goOn who w (.asleep alarm next) world k).1
      (goOn who w (.asleep alarm next) world k).2.2 := by
  have hfalse := rings_false k alarm w false
  have htrue := rings_true k alarm w false
  have hquiet := quiet_rings k alarm w false
  rw [goOn]
  generalize k.rings alarm w false = look at hfalse htrue hquiet ⊢
  obtain ⟨isOver, alarm', k'⟩ := look
  cases isOver with
  | true =>
    obtain ⟨hle, -⟩ := htrue rfl
    have hclock : k'.clock = k.clock := hquiet.clock
    have hnow : alarm.due = k.clock := Nat.le_antisymm hle hdue
    dsimp only
    rw [hnow, ← hclock]
    by_cases hrest : rest = 0
    · rw [advance_prompt (hlast hrest)]
      exact .ended (by omega)
    · exact (hadvance world k').of_lt (by omega)
  | false =>
    obtain ⟨hsame, hsteps, hwhy⟩ := hfalse rfl
    dsimp only at hsame hsteps ⊢
    refine .waits (.asleep hnext hlast (by omega) (by omega)) fun hnow => ?_
    have hnone : k.steps = 0 := by
      rcases hwhy with hlt | ⟨-, hzero⟩
      · omega
      · exact hzero
    exact ⟨hnone, hsteps.trans hnone⟩

theorem advance_timely {a : Activity W α} {rest : Nat} (h : a.Lasts v rest) (who : Party) (w : Waker) (world : W)
    (k : Scheduler) : Timely v k.clock (k.clock + rest) k.steps (advance who w a world k).1
      (advance who w a world k).2.2 := by
  induction h generalizing world k with
  | done => exact .ended rfl
  | @act _ change _ _ ih => exact ih world (change world) k
  | @sleep ms rest next hnext hlast ih =>
    have hdue : k.clock ≤ (k.alarm ms).due := Nat.le_add_right k.clock (waitOf ms)
    have htimely := asleep_timely hnext hlast ih hdue world
    rw [← Nat.add_assoc]
    exact htimely
  | pause hnext hlast => exact .waits (.poised hnext rfl) fun hfinish => by omega

theorem goOn_timely {s : Strand W α} {k : Scheduler} (h : s.Ends v k.clock finish) (who : Party) (w : Waker)
    (world : W) : Timely v k.clock finish k.steps (s.goOn who w world k).1 (s.goOn who w world k).2.2 := by
  cases h with
  | poised ha hfinish =>
    subst hfinish
    exact advance_timely ha who w world k
  | asleep hnext hlast hdue hfinish =>
    subst hfinish
    exact asleep_timely hnext hlast (advance_timely hnext who w) hdue world

end Strand

end AttributeRelease
