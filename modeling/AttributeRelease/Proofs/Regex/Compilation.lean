import AttributeRelease.Proofs.Regex.Matching
import AttributeRelease.Regex.Program
import Mathlib.Logic.Relation

/-!
The program of a pattern does what the pattern says. A program stands at an instruction and at a place in the text.
From the beginning of the code of a pattern ways lead to its end at just those places between which the pattern matches,
and whatever way leads from the beginning to acceptance passes the end.
-/

namespace AttributeRelease.Regex

open Pattern
open Unicode (CharSet)

/-- A program has this code from an instruction on. -/
def CodeAt (program : Array Instruction) (start : Nat) (code : List Instruction) : Prop :=
  code <+: program.toList.drop start

namespace CodeAt

variable {program : Array Instruction} {start : Nat}

theorem left {code more : List Instruction} (h : CodeAt program start (code ++ more)) : CodeAt program start code :=
  (List.prefix_append code more).trans h

theorem right {code more : List Instruction} (h : CodeAt program start (code ++ more)) :
    CodeAt program (start + code.length) more := by
  obtain ⟨rest, hrest⟩ := h
  refine ⟨rest, ?_⟩
  rw [← List.drop_drop, ← hrest, List.append_assoc, List.drop_left]

theorem head {x : Instruction} {code : List Instruction} (h : CodeAt program start (x :: code)) :
    program[start]? = some x := by
  obtain ⟨rest, hrest⟩ := h
  have hfirst : (program.toList.drop start)[0]? = some x := by rw [← hrest]; rfl
  simpa using hfirst

theorem tail {x : Instruction} {code : List Instruction} (h : CodeAt program start (x :: code)) :
    CodeAt program (start + 1) code :=
  CodeAt.right (show CodeAt program start ([x] ++ code) from h)

end CodeAt

namespace Pattern

theorem length_rounds {body : Nat → List Instruction} {size : Nat} (hsize : ∀ start, (body start).length = size)
    (n start : Nat) : (rounds body size start n).length = n * size := by
  induction n generalizing start with
  | zero => simp [rounds]
  | succ n ih => rw [rounds, List.length_append, hsize, ih, Nat.succ_mul, Nat.add_comm]

theorem length_optionalRounds {body : Nat → List Instruction} {size : Nat} (greedy : Bool) (past : Nat)
    (hsize : ∀ start, (body start).length = size) (n start : Nat) :
    (optionalRounds greedy body size past start n).length = n * (size + 1) := by
  induction n generalizing start with
  | zero => simp [optionalRounds]
  | succ n ih =>
    simp only [optionalRounds, List.length_append, List.length_cons, hsize, ih, Nat.succ_mul]
    omega

/-- The last of several rounds stands behind the others. -/
theorem rounds_succ {body : Nat → List Instruction} {size : Nat} (n start : Nat) :
    rounds body size start (n + 1) = rounds body size start n ++ body (start + n * size) := by
  induction n generalizing start with
  | zero => simp [rounds]
  | succ n ih =>
    rw [rounds, ih, rounds, List.append_assoc, Nat.succ_mul, Nat.add_comm (n * size), Nat.add_assoc start]

@[simp]
theorem length_code (p : Pattern) (start : Nat) : (p.code start).length = p.size := by
  induction p generalizing start with
  | empty | one | anchor => rfl
  | literal text => simp [code, size]
  | seq a b iha ihb => simp [code, size, iha, ihb]
  | alt a b iha ihb =>
    simp only [code, size, List.length_append, List.length_cons, iha, ihb]
    omega
  | repeated greedy least most p ih =>
    rcases least with _ | least <;> rcases most with _ | most
    · simp [code, size, ih]
    · simp [code, size, rounds, length_optionalRounds greedy _ ih]
    · simp [code, size, length_rounds ih]
    · simp [code, size, length_rounds ih, length_optionalRounds greedy _ ih]
  | group i p ih => simp [code, size, ih]

theorem codeAt_program (p : Pattern) : CodeAt p.program 0 ((group 0 p).code 0 ++ [.accept]) := List.prefix_rfl

end Pattern

/-! ### Ways to acceptance -/

/-- From an instruction and a place a program can go on to others. -/
inductive Step (program : Array Instruction) (text : List Char) : Nat × Nat → Nat × Nat → Prop
  | read {pc i : Nat} {chars : CharSet} {c : Char} (h : program[pc]? = some (.read chars)) (hc : text[i]? = some c)
    (hmem : chars.contains c.toNat = true) : Step program text (pc, i) (pc + 1, i + 1)
  | check {pc i : Nat} {a : Anchor} (h : program[pc]? = some (.check a)) (hholds : a.HoldsAt text i) :
    Step program text (pc, i) (pc + 1, i)
  | preferred {pc i target other : Nat} (h : program[pc]? = some (.split target other)) :
    Step program text (pc, i) (target, i)
  | other {pc i target other : Nat} (h : program[pc]? = some (.split target other)) :
    Step program text (pc, i) (other, i)
  | jump {pc i target : Nat} (h : program[pc]? = some (.jump target)) : Step program text (pc, i) (target, i)
  | note {pc i slot : Nat} (h : program[pc]? = some (.note slot)) : Step program text (pc, i) (pc + 1, i)

theorem step_iff {program : Array Instruction} {text : List Char} {pc i pc' j : Nat} :
    Step program text (pc, i) (pc', j) ↔
      (∃ chars c, program[pc]? = some (.read chars) ∧ text[i]? = some c ∧ chars.contains c.toNat = true ∧
        pc' = pc + 1 ∧ j = i + 1) ∨
      (∃ a, program[pc]? = some (.check a) ∧ a.HoldsAt text i ∧ pc' = pc + 1 ∧ j = i) ∨
      (∃ target other, program[pc]? = some (.split target other) ∧ (pc' = target ∨ pc' = other) ∧ j = i) ∨
      (∃ target, program[pc]? = some (.jump target) ∧ pc' = target ∧ j = i) ∨
      ∃ slot, program[pc]? = some (.note slot) ∧ pc' = pc + 1 ∧ j = i := by
  constructor
  · intro h
    cases h <;> simp_all
  · rintro (⟨chars, c, h, hc, hmem, rfl, rfl⟩ | ⟨a, h, hholds, rfl, rfl⟩ | ⟨target, other, h, rfl | rfl, rfl⟩ |
      ⟨target, h, rfl, rfl⟩ | ⟨slot, h, rfl, rfl⟩)
    · exact .read h hc hmem
    · exact .check h hholds
    · exact .preferred h
    · exact .other h
    · exact .jump h
    · exact .note h

/-- In so many steps a program can come to accept. -/
inductive Accepts (program : Array Instruction) (text : List Char) : Nat → Nat × Nat → Prop
  | here {pc i : Nat} (h : program[pc]? = some .accept) : Accepts program text 0 (pc, i)
  | step {n : Nat} {s s' : Nat × Nat} (h : Step program text s s') (hrest : Accepts program text n s') :
    Accepts program text (n + 1) s

theorem exists_accepts_of_way {program : Array Instruction} {text : List Char} {s : Nat × Nat} {pc i : Nat}
    (h : Relation.ReflTransGen (Step program text) s (pc, i)) (haccept : program[pc]? = some .accept) :
    ∃ n, Accepts program text n s := by
  induction h using Relation.ReflTransGen.head_induction_on with
  | refl => exact ⟨0, .here haccept⟩
  | head hstep _ ih =>
    obtain ⟨n, hn⟩ := ih
    exact ⟨n + 1, .step hstep hn⟩

/-- From one instruction ways lead to another one between related places, and every way to acceptance begins with one. -/
structure Realizes (program : Array Instruction) (text : List Char) (R : Nat → Nat → Prop) (start finish : Nat) : Prop where
  leads : ∀ i j, R i j → Relation.ReflTransGen (Step program text) (start, i) (finish, j)
  passes : ∀ n i, Accepts program text n (start, i) → ∃ j m, m ≤ n ∧ R i j ∧ Accepts program text m (finish, j)

namespace Realizes

variable {program : Array Instruction} {text : List Char} {R S : Nat → Nat → Prop} {start middle finish : Nat}

theorem refl (start : Nat) : Realizes program text (fun i j => j = i) start start where
  leads := by
    rintro i _ rfl
    exact .refl
  passes n i h := ⟨i, n, Nat.le_refl n, rfl, h⟩

theorem trans (h : Realizes program text R start middle) (h' : Realizes program text S middle finish) :
    Realizes program text (fun i j => ∃ k, R i k ∧ S k j) start finish where
  leads := by
    rintro i j ⟨k, hR, hS⟩
    exact (h.leads i k hR).trans (h'.leads k j hS)
  passes n i hn := by
    obtain ⟨k, m, hm, hR, hk⟩ := h.passes n i hn
    obtain ⟨j, m', hm', hS, hj⟩ := h'.passes m k hk
    exact ⟨j, m', Nat.le_trans hm' hm, ⟨k, hR, hS⟩, hj⟩

theorem congr (h : Realizes program text R start finish) (hRS : ∀ i j, R i j ↔ S i j) :
    Realizes program text S start finish := by
  obtain rfl : R = S := funext fun i => funext fun j => propext (hRS i j)
  exact h

theorem congr_finish {finish' : Nat} (h : Realizes program text R start finish) (hfinish : finish = finish') :
    Realizes program text R start finish' :=
  hfinish ▸ h

/-- An instruction from which every step goes on at the same one. -/
theorem of_step {x : Instruction} (h : program[start]? = some x) (hx : x ≠ .accept)
    (hstep : ∀ i pc j, Step program text (start, i) (pc, j) ↔ pc = finish ∧ R i j) :
    Realizes program text R start finish where
  leads i j hR := .single ((hstep i finish j).2 ⟨rfl, hR⟩)
  passes n i hn := by
    cases hn with
    | here haccept => exact absurd (Option.some.inj (h.symm.trans haccept)) hx
    | @step n _ s hs hrest =>
      obtain ⟨pc, j⟩ := s
      obtain ⟨rfl, hR⟩ := (hstep i pc j).1 hs
      exact ⟨j, n, Nat.le_succ n, hR, hrest⟩

theorem read {chars : CharSet} (h : program[start]? = some (.read chars)) :
    Realizes program text ((one chars).Matches text) start (start + 1) :=
  of_step h (by simp) fun i pc j => by simp [step_iff, h, Matches]; grind

theorem check {a : Anchor} (h : program[start]? = some (.check a)) :
    Realizes program text ((anchor a).Matches text) start (start + 1) :=
  of_step h (by simp) fun i pc j => by simp [step_iff, h, Matches, and_left_comm]

theorem jump {target : Nat} (h : program[start]? = some (.jump target)) :
    Realizes program text (fun i j => j = i) start target :=
  of_step h (by simp) fun i pc j => by simp [step_iff, h, @eq_comm _ target]

theorem note {slot : Nat} (h : program[start]? = some (.note slot)) :
    Realizes program text (fun i j => j = i) start (start + 1) :=
  of_step h (by simp) fun i pc j => by simp [step_iff, h]

/-- A choice realizes what either of its ways does. -/
theorem split {a b : Nat} (h : program[start]? = some (.split a b)) (ha : Realizes program text R a finish)
    (hb : Realizes program text S b finish) : Realizes program text (fun i j => R i j ∨ S i j) start finish where
  leads := by
    rintro i j (hR | hS)
    · exact .head (.preferred h) (ha.leads i j hR)
    · exact .head (.other h) (hb.leads i j hS)
  passes n i hn := by
    cases hn with
    | here haccept => simp [h] at haccept
    | @step n _ s hs hrest =>
      obtain ⟨pc, i'⟩ := s
      obtain ⟨rfl | rfl, rfl⟩ : (pc = a ∨ pc = b) ∧ i' = i := by simpa [step_iff, h] using hs
      · obtain ⟨j, m, hm, hR, hj⟩ := ha.passes n i' hrest
        exact ⟨j, m, Nat.le_succ_of_le hm, .inl hR, hj⟩
      · obtain ⟨j, m, hm, hS, hj⟩ := hb.passes n i' hrest
        exact ⟨j, m, Nat.le_succ_of_le hm, .inr hS, hj⟩

theorem enter {greedy : Bool} {body past : Nat} (h : program[start]? = some (.enter greedy body past))
    (hbody : Realizes program text R body finish) (hpast : Realizes program text S past finish) :
    Realizes program text (fun i j => R i j ∨ S i j) start finish := by
  cases greedy with
  | true => exact split h hbody hpast
  | false => exact (split h hpast hbody).congr fun i j => or_comm

/-- What comes back to a choice, which goes around again or past, goes around some number of times. -/
theorem around {greedy : Bool} {body last past : Nat} (h : program[last]? = some (.enter greedy body past))
    (hbody : Realizes program text R body last) : Realizes program text (fun i j => ∃ n, Rounds R n i j) last past := by
  have hsteps (i pc j : Nat) : Step program text (last, i) (pc, j) ↔ (pc = body ∨ pc = past) ∧ j = i := by
    cases greedy <;> simp [step_iff, h, Instruction.enter, or_comm]
  constructor
  · rintro i j ⟨n, hn⟩
    induction n generalizing i with
    | zero =>
      cases hn
      exact .single ((hsteps j past j).2 ⟨.inr rfl, rfl⟩)
    | succ n ih =>
      obtain ⟨k, hR, hrest⟩ := hn
      exact .head ((hsteps i body i).2 ⟨.inl rfl, rfl⟩) ((hbody.leads i k hR).trans (ih k hrest))
  · intro n i hn
    induction n using Nat.strongRecOn generalizing i with
    | ind n ih =>
      cases hn with
      | here haccept => cases greedy <;> simp [h, Instruction.enter] at haccept
      | @step n _ s hs hrest =>
        obtain ⟨pc, i'⟩ := s
        obtain ⟨rfl | rfl, rfl⟩ := (hsteps i pc i').1 hs
        · obtain ⟨k, m, hm, hR, hk⟩ := hbody.passes n i' hrest
          obtain ⟨j, m', hm', ⟨r, hr⟩, hj⟩ := ih m (Nat.lt_succ_of_le hm) k hk
          exact ⟨j, m', by omega, ⟨r + 1, k, hR, hr⟩, hj⟩
        · exact ⟨i', n, Nat.le_succ n, ⟨0, rfl⟩, hrest⟩

variable {body : Nat → List Instruction} {size : Nat}

/-- Rounds of a body, each of which realizes the same. -/
theorem rounds (hsize : ∀ start, (body start).length = size)
    (hbody : ∀ start, CodeAt program start (body start) → Realizes program text R start (start + size)) (n : Nat)
    (h : CodeAt program start (Regex.rounds body size start n)) :
    Realizes program text (Rounds R n) start (start + n * size) := by
  induction n generalizing start with
  | zero =>
    rw [Nat.zero_mul, Nat.add_zero]
    exact refl start
  | succ n ih =>
    rw [Regex.rounds] at h
    have hrest := h.right
    rw [hsize] at hrest
    rw [Nat.succ_mul, Nat.add_comm (n * size), ← Nat.add_assoc]
    exact (hbody start h.left).trans (ih hrest)

theorem optionalRounds {greedy : Bool} {past : Nat} (hsize : ∀ start, (body start).length = size)
    (hbody : ∀ start, CodeAt program start (body start) → Realizes program text R start (start + size)) (n : Nat)
    (h : CodeAt program start (Regex.optionalRounds greedy body size past start n))
    (hpast : past = start + n * (size + 1)) :
    Realizes program text (fun i j => ∃ m ≤ n, Rounds R m i j) start past := by
  induction n generalizing start with
  | zero =>
    obtain rfl : start = past := by omega
    exact (refl _).congr fun i j => by simp [Rounds]
  | succ n ih =>
    rw [Regex.optionalRounds, List.cons_append] at h
    have hrest := h.tail.right
    rw [hsize] at hrest
    have hround := (hbody _ h.tail.left).trans (ih hrest (by rw [hpast, Nat.succ_mul]; omega))
    exact (enter h.head hround (refl past)).congr fun i j => Rounds.exists_le_succ.symm

end Realizes

/-- Of the class of one character a text has that character. -/
theorem matches_one_single {text : List Char} {c : Char} {i j : Nat} :
    (one (.single c.toNat)).Matches text i j ↔ (literal [c]).Matches text i j := by
  have hmem (d : Char) : (CharSet.single c.toNat).contains d.toNat = true ↔ d = c := by
    rw [← Char.toNat_inj]
    simp [CharSet.single, CharSet.interval, CharSet.contains, Unicode.CharRange.contains, Nat.le_antisymm_iff, and_comm]
  simp [Matches, hmem, List.singleton_prefix_iff_head?_eq_some]

/-- The text of a literal is read character by character. -/
theorem realizes_literal {program : Array Instruction} {text : List Char} {start : Nat} (cs : List Char)
    (h : CodeAt program start ((literal cs).code start)) :
    Realizes program text ((literal cs).Matches text) start (start + cs.length) := by
  induction cs generalizing start with
  | nil => exact (Realizes.refl start).congr (by simp [Matches])
  | cons c cs ih =>
    have hrest := (Realizes.read h.head).trans (ih h.tail)
    refine (hrest.congr fun i j => ?_).congr_finish (by rw [List.length_cons]; omega)
    rw [← List.singleton_append, matches_literal_append]
    simp [MatchAll, matches_one_single]

/-- The code of a pattern realizes that the pattern matches. -/
theorem realizes_code {program : Array Instruction} {text : List Char} (p : Pattern) {start : Nat}
    (h : CodeAt program start (p.code start)) :
    Realizes program text (p.Matches text) start (start + p.size) := by
  induction p generalizing start with
  | empty => exact .refl start
  | literal cs => exact realizes_literal cs h
  | one chars => exact .read h.head
  | anchor a => exact .check h.head
  | seq p q ihp ihq =>
    have hq := h.right
    rw [length_code] at hq
    exact ((ihp h.left).trans (ihq hq)).congr_finish (Nat.add_assoc ..)
  | alt p q ihp ihq =>
    rw [code, List.cons_append] at h
    have hjump := h.tail.right
    rw [length_code] at hjump
    have hp := ((ihp h.tail.left).trans (Realizes.jump hjump.head)).congr (S := p.Matches text) (by simp)
    have hq := ihq hjump.tail
    exact (Realizes.split h.head hp hq).congr_finish (by simp only [size]; omega)
  | repeated greedy least most p ih =>
    rcases most with _ | most
    · rcases least with _ | least
      · rw [code, List.cons_append] at h
        have hbody := ih h.tail.left
        have hback := h.tail.right
        rw [length_code] at hback
        have hrounds : Realizes program text (fun i j => ∃ n, Rounds (p.Matches text) n i j) start
            (start + 1 + p.size + 1) := by
          by_cases hmoves : p.moves
          · rw [if_pos hmoves] at hback
            exact .around h.head ((hbody.trans (.jump hback.head)).congr (by simp))
          · rw [if_neg hmoves] at hback
            exact (Realizes.enter h.head (hbody.trans (.around hback.head hbody)) (.refl _)).congr fun i j =>
              Rounds.exists_iff.symm
        exact (hrounds.congr fun i j => by simp [Matches]).congr_finish (by simp only [size]; omega)
      · rw [code] at h
        have hlast := h.right.head
        have hbody := h.left
        rw [length_rounds (length_code p)] at hlast
        rw [rounds_succ] at hbody
        have hbody := ih (by simpa [length_rounds (length_code p)] using hbody.right)
        have hrounds := Realizes.rounds (length_code p) (fun _ => ih) _ h.left
        have hfinish : start + least * p.size + p.size = start + (least + 1) * p.size := by
          rw [Nat.succ_mul, Nat.add_assoc]
        rw [hfinish] at hlast hbody
        refine ((hrounds.trans (.around hlast hbody)).congr fun i j => ?_).congr_finish (Nat.add_assoc ..)
        rw [Matches, Rounds.exists_ge_iff]
        simp
    · rw [code] at h
      have hoptional := h.right
      rw [length_rounds (length_code p)] at hoptional
      have hrounds := Realizes.rounds (length_code p) (fun _ => ih) _ h.left
      refine ((hrounds.trans (.optionalRounds (length_code p) (fun _ => ih) _ hoptional rfl)).congr fun i j => ?_).congr_finish
        (by simp only [size]; omega)
      have hbound (n : Nat) : least + n ≤ max least most ↔ n ≤ most - least := by omega
      rw [Matches, Rounds.exists_ge_iff]
      simp only [Option.some.injEq, forall_eq', hbound]
  | group i p ih =>
    rw [code, List.cons_append] at h
    have hnote := h.tail.right
    rw [length_code] at hnote
    have hnotes := (Realizes.note h.head).trans ((ih h.tail.left).trans (Realizes.note hnote.head))
    exact (hnotes.congr (S := (group i p).Matches text) (by simp [Matches])).congr_finish (by simp only [size]; omega)

/-- The program of a pattern can come to accept from where the pattern matches, and from nowhere else. -/
theorem accepts_program_iff {p : Pattern} {text : List Char} {i : Nat} :
    (∃ n, Accepts p.program text n (0, i)) ↔ ∃ j, p.Matches text i j := by
  have hprogram : Realizes p.program text ((group 0 p).Matches text) 0 (0 + (group 0 p).size) :=
    realizes_code (group 0 p) (codeAt_program p).left
  have haccept := (codeAt_program p).right.head
  rw [length_code] at haccept
  constructor
  · rintro ⟨n, hn⟩
    obtain ⟨j, m, -, hmatch, -⟩ := hprogram.passes n i hn
    exact ⟨j, hmatch⟩
  · rintro ⟨j, hmatch⟩
    exact exists_accepts_of_way (hprogram.leads i j hmatch) haccept

end AttributeRelease.Regex
