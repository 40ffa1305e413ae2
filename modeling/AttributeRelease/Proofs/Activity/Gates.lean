import AttributeRelease.Activity.Scheduler
import Mathlib.Data.List.Nodup
import Mathlib.Data.List.Perm.Subperm

/-!
What becomes of the room of a gate. Whoever goes in takes room for one, and whoever leaves makes it again; in
between it may have been given to somebody who has not gone in yet. So the room that is free, the room that was
given and those who are inside always add up to the same. Nobody waits twice, and nobody stands in the line while
there is room.
-/

namespace AttributeRelease

namespace Gate

variable {τ : Type} {g g' : Gate τ} {t x : τ} {w : Waker} {passage : Passage}

/-- Those who have been given room, and those who stand in the line. -/
def waiting (g : Gate τ) : List τ := g.granted ++ g.line.map Prod.fst

/-- The room that is not taken by anybody inside. -/
def room (g : Gate τ) : Nat := g.free + g.granted.length

theorem mem_waiting : x ∈ g.waiting ↔ x ∈ g.granted ∨ x ∈ g.line.map Prod.fst := List.mem_append

/-- Nobody waits twice, and there is a line only if there is no room. -/
structure Orderly (g : Gate τ) : Prop where
  nodup : g.waiting.Nodup
  full : g.line ≠ [] → g.free = 0

theorem room_leave (g : Gate τ) : g.leave.2.room = g.room + 1 := by
  unfold leave
  cases g.line with
  | nil => simp only [room]; omega
  | cons => simp only [room, List.length_cons]; omega

theorem closed_leave (g : Gate τ) : g.leave.2.closed = g.closed := by
  unfold leave
  cases g.line <;> rfl

/-- Who leaves gives room to one of those who wait. -/
theorem waiting_leave (g : Gate τ) : g.leave.2.waiting.Perm g.waiting := by
  unfold leave waiting
  cases g.line with
  | nil => exact .refl _
  | cons e rest => exact List.perm_middle.symm

theorem nodup_leave (hnodup : g.waiting.Nodup) : g.leave.2.waiting.Nodup := (waiting_leave g).nodup_iff.2 hnodup

theorem mem_waiting_leave : x ∈ g.leave.2.waiting ↔ x ∈ g.waiting := (waiting_leave g).mem_iff

theorem full_leave (hfull : g.line ≠ [] → g.free = 0) : g.leave.2.line ≠ [] → g.leave.2.free = 0 := by
  unfold leave
  cases hline : g.line with
  | nil => exact fun hne => absurd rfl hne
  | cons => exact fun _ => hfull (by rw [hline]; exact List.cons_ne_nil _ _)

theorem Orderly.leave (h : g.Orderly) : g.leave.2.Orderly := ⟨nodup_leave h.nodup, full_leave h.full⟩

variable [DecidableEq τ]

theorem any_line_iff : g.line.any (·.1 = t) = true ↔ t ∈ g.line.map Prod.fst := by
  simp only [List.any_eq_true, decide_eq_true_eq, List.mem_map]

theorem knows_iff : g.knows t = true ↔ t ∈ g.waiting := by
  rw [knows, Bool.or_eq_true, any_line_iff, List.contains_iff_mem, mem_waiting]

theorem map_fst_filter (line : List (τ × Waker)) :
    (line.filter (·.1 ≠ t)).map Prod.fst = (line.map Prod.fst).filter (· ≠ t) := by
  rw [List.filter_map]
  rfl

/-- How an attempt to go through a gate comes out. -/
inductive Attempt (g : Gate τ) (t : τ) (w : Waker) : Passage → Gate τ → Prop
  /-- Somebody who waits already, or before a closed gate, goes on waiting. -/
  | stays (h : t ∈ g.waiting ∨ g.closed = true) : Attempt g t w .waits g
  /-- Somebody goes in who was given room. -/
  | comes (hgranted : t ∈ g.granted) : Attempt g t w .enters { g with granted := g.granted.erase t }
  | excused (hgranted : t ∉ g.granted) (hclosed : g.closed = true) :
    Attempt g t w .excused { g with line := g.line.filter (·.1 ≠ t) }
  /-- There is no room, and somebody joins the line. -/
  | joins (hnew : t ∉ g.waiting) (hclosed : g.closed = false) (hfree : g.free = 0) :
    Attempt g t w .waits { g with line := g.line ++ [(t, w)] }
  /-- There is room, and somebody goes in. -/
  | finds (hnew : t ∉ g.waiting) (hclosed : g.closed = false) (hfree : g.free ≠ 0) :
    Attempt g t w .enters { g with free := g.free - 1 }
  /-- There is room, but no step is left to go in. -/
  | reserves (hnew : t ∉ g.waiting) (hclosed : g.closed = false) (hfree : g.free ≠ 0) :
    Attempt g t w .waits { g with free := g.free - 1, granted := t :: g.granted }

theorem enter_attempt (g : Gate τ) (t : τ) (w : Waker) (hasStep : Bool) :
    Attempt g t w (g.enter t w hasStep).1 (g.enter t w hasStep).2 := by
  unfold enter
  by_cases hgranted : t ∈ g.granted
  · rw [if_pos hgranted]
    cases hasStep with
    | true => exact .comes hgranted
    | false => exact .stays (.inl (mem_waiting.2 (.inl hgranted)))
  rw [if_neg hgranted]
  by_cases hclosed : g.closed = true
  · rw [if_pos hclosed]
    cases hasStep with
    | true => exact .excused hgranted hclosed
    | false => exact .stays (.inr hclosed)
  rw [if_neg hclosed]
  have hopen : g.closed = false := Bool.eq_false_iff.2 hclosed
  by_cases hline : g.line.any (·.1 = t) = true
  · rw [if_pos hline]
    exact .stays (.inl (mem_waiting.2 (.inr (any_line_iff.1 hline))))
  rw [if_neg hline]
  have hnew : t ∉ g.waiting := by
    rw [mem_waiting, ← any_line_iff]
    exact not_or.2 ⟨hgranted, hline⟩
  by_cases hfree : g.free = 0
  · rw [if_pos hfree]
    exact .joins hnew hopen hfree
  rw [if_neg hfree]
  cases hasStep with
  | true => exact .finds hnew hopen hfree
  | false => exact .reserves hnew hopen hfree

namespace Attempt

theorem mem_waiting (h : Attempt g t w passage g') (hx : x ∈ g'.waiting) : x ∈ g.waiting ∨ x = t := by
  cases h with
  | stays | finds => exact .inl hx
  | comes =>
    rw [Gate.mem_waiting] at hx ⊢
    exact .inl (hx.imp_left List.mem_of_mem_erase)
  | excused =>
    rw [Gate.mem_waiting, map_fst_filter] at hx
    exact .inl (Gate.mem_waiting.2 (hx.imp_right List.mem_of_mem_filter))
  | joins =>
    simp only [Gate.mem_waiting, List.map_append, List.mem_append, List.map_cons, List.map_nil,
      List.mem_singleton] at hx ⊢
    tauto
  | reserves =>
    simp only [Gate.mem_waiting, List.mem_cons] at hx ⊢
    tauto

theorem nodup (h : Attempt g t w passage g') (hnodup : g.waiting.Nodup) : g'.waiting.Nodup := by
  cases h with
  | stays | finds => exact hnodup
  | comes => exact hnodup.sublist (List.erase_sublist.append_right _)
  | excused =>
    rw [waiting, map_fst_filter]
    exact hnodup.sublist (List.filter_sublist.append_left _)
  | joins hnew =>
    have hwaiting : ({ g with line := g.line ++ [(t, w)] } : Gate τ).waiting = g.waiting ++ [t] := by
      simp [waiting]
    rw [hwaiting]
    exact hnodup.append (List.nodup_singleton t) (List.disjoint_singleton.2 hnew)
  | reserves hnew => exact List.nodup_cons.2 ⟨hnew, hnodup⟩

theorem orderly (h : Attempt g t w passage g') (horderly : g.Orderly) : g'.Orderly := by
  refine ⟨h.nodup horderly.nodup, fun hline => ?_⟩
  cases h with
  | stays | comes => exact horderly.full hline
  | excused => exact horderly.full fun hnil => hline (by rw [hnil, List.filter_nil])
  | joins _ _ hfree => exact hfree
  | finds _ _ hfree | reserves _ _ hfree => exact absurd (horderly.full hline) hfree

/-- Whoever has gone in does not wait any longer. -/
theorem not_mem_waiting (h : Attempt g t w .enters g') (hnodup : g.waiting.Nodup) : t ∉ g'.waiting := by
  cases h with
  | comes hgranted =>
    intro ht
    rw [waiting, ← List.erase_append_left _ hgranted] at ht
    exact hnodup.not_mem_erase ht
  | finds hnew => exact hnew

/-- Whoever goes in takes room for one; nobody else takes any. -/
theorem room (h : Attempt g t w passage g') : g.room = g'.room + if passage = .enters then 1 else 0 := by
  cases h with
  | stays | excused | joins => rfl
  | comes hgranted =>
    have hlength := List.length_erase_of_mem hgranted
    have hpos := List.length_pos_of_mem hgranted
    simp only [Gate.room, if_true]
    omega
  | finds =>
    simp only [Gate.room, if_true]
    omega
  | reserves =>
    simp only [Gate.room, reduceCtorEq, if_false, List.length_cons]
    omega

theorem closed (h : Attempt g t w passage g') : g'.closed = g.closed := by
  cases h <;> rfl

/-- An open gate turns nobody away. -/
theorem ne_excused (h : Attempt g t w passage g') (hopen : g.closed = false) : passage ≠ .excused := by
  cases h with
  | stays | comes | joins | finds | reserves => exact nofun
  | excused _ hclosed => exact absurd (hopen.symm.trans hclosed) Bool.false_ne_true

end Attempt

theorem room_withdraw (g : Gate τ) (t : τ) : (g.withdraw t).2.room = g.room := by
  unfold withdraw
  split
  · next hgranted =>
    rw [room_leave]
    have hlength := List.length_erase_of_mem hgranted
    have hpos := List.length_pos_of_mem hgranted
    simp only [room]
    omega
  · rfl

theorem closed_withdraw (g : Gate τ) (t : τ) : (g.withdraw t).2.closed = g.closed := by
  unfold withdraw
  split
  · exact closed_leave _
  · rfl

/-- Whoever gives up is the only one who does not wait any longer. -/
theorem waiting_withdraw (hnodup : g.waiting.Nodup) (t : τ) : (g.withdraw t).2.waiting.Perm (g.waiting.erase t) := by
  unfold withdraw
  by_cases hgranted : t ∈ g.granted
  · rw [if_pos hgranted, waiting, waiting, List.erase_append_left _ hgranted]
    exact waiting_leave _
  · rw [if_neg hgranted]
    have hline : (g.line.map Prod.fst).Nodup := hnodup.of_append_right
    rw [waiting, waiting, List.erase_append_right _ hgranted, map_fst_filter, hline.erase_eq_filter]
    exact .of_eq (by simp only [ne_eq, decide_not]; rfl)

theorem nodup_withdraw (hnodup : g.waiting.Nodup) (t : τ) : (g.withdraw t).2.waiting.Nodup :=
  (waiting_withdraw hnodup t).nodup_iff.2 (hnodup.erase t)

theorem Orderly.withdraw (h : g.Orderly) (t : τ) : (g.withdraw t).2.Orderly := by
  refine ⟨nodup_withdraw h.nodup t, ?_⟩
  unfold Gate.withdraw
  split
  · exact full_leave h.full
  · exact fun hline => h.full fun hnil => hline (by rw [hnil, List.filter_nil])

theorem mem_waiting_of_withdraw (hx : x ∈ (g.withdraw t).2.waiting) : x ∈ g.waiting := by
  unfold withdraw at hx
  split at hx
  · rw [mem_waiting_leave] at hx
    exact (List.erase_sublist.append_right _).subset hx
  · rw [mem_waiting, map_fst_filter] at hx
    exact mem_waiting.2 (hx.imp_right List.mem_of_mem_filter)

theorem mem_waiting_withdraw (hnodup : g.waiting.Nodup) (t : τ) :
    x ∈ (g.withdraw t).2.waiting ↔ x ≠ t ∧ x ∈ g.waiting := by
  rw [(waiting_withdraw hnodup t).mem_iff, hnodup.mem_erase_iff]

end Gate

namespace Gate

/-! ### Whom a gate lets in -/

variable {τ : Type} {g : Gate τ} {t : τ}

/-- Whoever was given room may go in, and everybody while there is room and nobody waits. -/
def Admits (g : Gate τ) (t : τ) : Prop :=
  t ∈ g.granted ∨ g.closed = false ∧ g.waiting = [] ∧ g.free ≠ 0

/-- A gate with room lets somebody in: one of those who have been given it, or else everybody. -/
theorem Orderly.admits (h : g.Orderly) (hopen : g.closed = false) (hroom : g.room ≠ 0) :
    (∃ x ∈ g.granted, g.Admits x) ∨ ∀ x, g.Admits x := by
  cases hgranted : g.granted with
  | cons x rest => exact .inl ⟨x, List.mem_cons_self, .inl (hgranted ▸ List.mem_cons_self)⟩
  | nil =>
    rw [room, hgranted] at hroom
    have hline : g.line = [] := by
      by_contra hline
      exact hroom (h.full hline)
    refine .inr fun x => .inr ⟨hopen, ?_, hroom⟩
    rw [waiting, hgranted, hline]
    rfl

variable [DecidableEq τ]

/-- Whoever may go in does so with a step left. -/
theorem Admits.enter (h : g.Admits t) (w : Waker) : (g.enter t w true).1 = .enters := by
  unfold Gate.enter
  rcases h with hgranted | ⟨hopen, hnobody, hfree⟩
  · rw [if_pos hgranted, if_pos rfl]
  · have hnew : t ∉ g.waiting := hnobody ▸ List.not_mem_nil
    rw [mem_waiting, ← any_line_iff] at hnew
    obtain ⟨hgranted, hline⟩ := not_or.1 hnew
    rw [if_neg hgranted, hopen, if_neg Bool.false_ne_true, if_neg hline, if_neg hfree, if_pos rfl]

end Gate

/-- Whoever may go through a gate does so in a turn that has a step left. -/
theorem Scheduler.pass_admits {τ : Type} [DecidableEq τ] {k : Scheduler} {g : Gate τ} {t : τ} (h : g.Admits t)
    (w : Waker) (hsteps : k.steps ≠ 0) : (k.pass g t w).1 = .enters := by
  have henter := h.enter w
  have hstep : (k.steps != 0) = true := bne_iff_ne.2 hsteps
  unfold pass
  rw [hstep]
  dsimp only
  generalize g.enter t w true = out at henter ⊢
  obtain ⟨passage, g'⟩ := out
  obtain rfl := henter
  rfl

theorem Scheduler.pass_attempt {τ : Type} [DecidableEq τ] (k : Scheduler) (g : Gate τ) (t : τ) (w : Waker) :
    g.Attempt t w (k.pass g t w).1 (k.pass g t w).2.1 := by
  have hattempt := g.enter_attempt t w (k.steps != 0)
  unfold pass
  dsimp only
  generalize g.enter t w (k.steps != 0) = out at hattempt
  obtain ⟨passage, g'⟩ := out
  cases passage <;> exact hattempt

end AttributeRelease
