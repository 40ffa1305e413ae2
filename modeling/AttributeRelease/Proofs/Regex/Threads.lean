import AttributeRelease.Proofs.Regex.Compilation
import AttributeRelease.Regex.Search

/-!
What the search for a match follows. A thread stands only where a way through the program leads that begins at some
place of the text; and as long as nothing is found, threads stand wherever such a way waits for a character. So a match
is found if and only if there is one.
-/

namespace AttributeRelease.Regex

open Pattern

variable {program : Array Instruction} {text : List Char}

/-- The threads of a front that go on with the next character. -/
def Front.goOn (front : Front) (c : Char) : List Thread :=
  front.waiting.reverse.filterMap fun (chars, t) => if chars.contains c.toNat then some t else none

theorem Front.mem_goOn {front : Front} {c : Char} {t : Thread} :
    t ∈ front.goOn c ↔ ∃ chars, (chars, t) ∈ front.waiting ∧ chars.contains c.toNat = true := by
  simp [goOn]

/-- The threads at a place: as long as nothing was found, a match may also begin there. -/
def startedAt (threads : List Thread) (found : Option Notes) : List Thread :=
  if found.isSome then threads else threads ++ [⟨0, []⟩]

/-- What follows from threads at a place. -/
def advanceAt (program : Array Instruction) (text : List Char) (place : Nat) : (fuel : Nat) → List Thread →
    (seen : Array Bool) → Front → Front :=
  advance program (text.take place).getLast? text[place]? place

/-- Where the threads of a place stand. -/
def frontAt (program : Array Instruction) (text : List Char) (place : Nat) (threads : List Thread)
    (found : Option Notes) : Front :=
  advanceAt program text place ((startedAt threads found).length + 2 * program.size) (startedAt threads found)
    (Array.replicate program.size false) {}

/-- The search from a place on. -/
def runAt (program : Array Instruction) (text : List Char) (place : Nat) (threads : List Thread)
    (found : Option Notes) : Option Notes :=
  run program (text.take place).getLast? place threads found (text.drop place)

theorem runAt_end {place : Nat} (hplace : text.length ≤ place) (threads : List Thread) (found : Option Notes) :
    runAt program text place threads found = ((frontAt program text place threads found).reached <|> found) := by
  rw [runAt, frontAt, advanceAt, ← List.head?_drop, List.drop_eq_nil_of_le hplace, run]
  rfl

theorem runAt_next {place : Nat} {c : Char} (hc : text[place]? = some c) (threads : List Thread)
    (found : Option Notes) :
    runAt program text place threads found =
      let front := frontAt program text place threads found
      let found := front.reached <|> found
      if (front.goOn c).isEmpty && found.isSome then found
      else runAt program text (place + 1) (front.goOn c) found := by
  have hlast : (text.take (place + 1)).getLast? = some c := by simp [List.take_add_one, hc]
  have hdrop : text.drop place = c :: text.drop (place + 1) := by
    obtain ⟨hlt, rfl⟩ := List.getElem?_eq_some_iff.1 hc
    exact List.drop_eq_getElem_cons hlt
  rw [runAt, hdrop, run]
  simp only [runAt, frontAt, advanceAt, hlast, hc]
  rfl

/-- An instruction is marked, or there is none. -/
def Marked (seen : Array Bool) (pc : Nat) : Prop := seen.getD pc true = true

theorem marked_setIfInBounds {seen : Array Bool} {pc pc' : Nat} :
    Marked (seen.setIfInBounds pc true) pc' ↔ pc' = pc ∨ Marked seen pc' := by
  simp only [Marked, Array.getD_eq_getD_getElem?, Array.getElem?_setIfInBounds]
  grind

theorem count_setIfInBounds {seen : Array Bool} {pc : Nat} (h : ¬ Marked seen pc) :
    (seen.setIfInBounds pc true).count false + 1 = seen.count false := by
  have hpc : pc < seen.size := by grind [Marked]
  have hfalse : seen[pc] = false := by simpa [Marked, hpc] using h
  have hpos : 0 < seen.count false := Array.count_pos_iff.2 (hfalse ▸ Array.getElem_mem hpc)
  rw [Array.setIfInBounds, dif_pos hpc, Array.count_set]
  simp only [hfalse, beq_self_eq_true, if_true, Bool.true_eq_false, beq_iff_eq, if_false]
  omega

/-- What following a thread up to the next instruction puts in the place of the thread. -/
structure Followed (program : Array Instruction) (text : List Char) (place : Nat) (t : Thread) (next : List Thread)
    (front front' : Front) : Prop where
  few : next.length ≤ 2
  goesOn : ∀ pc, Step program text (t.next, place) (pc, place) ↔ ∃ t' ∈ next, pc = t'.next
  waits : ∀ x, x ∈ front'.waiting ↔
    x ∈ front.waiting ∨ program[t.next]? = some (.read x.1) ∧ x.2 = ⟨t.next + 1, t.notes⟩
  reached : front'.reached = front.reached

theorem advanceAt_marked {place fuel : Nat} {t : Thread} {threads : List Thread} {seen : Array Bool} {front : Front}
    (h : Marked seen t.next) :
    advanceAt program text place (fuel + 1) (t :: threads) seen front =
      advanceAt program text place fuel threads seen front := by
  rw [advanceAt, advance]
  exact if_pos h

/-- Following a thread ends with acceptance, or goes on with other threads. -/
theorem advanceAt_unmarked {place fuel : Nat} {t : Thread} {threads : List Thread} {seen : Array Bool} {front : Front}
    (h : ¬ Marked seen t.next) :
    (program[t.next]? = some .accept ∧
      advanceAt program text place (fuel + 1) (t :: threads) seen front = { front with reached := some t.notes }) ∨
    (program[t.next]? ≠ some .accept ∧ ∃ next front', Followed program text place t next front front' ∧
      advanceAt program text place (fuel + 1) (t :: threads) seen front =
        advanceAt program text place fuel (next ++ threads) (seen.setIfInBounds t.next true) front') := by
  have hunmarked : ¬ seen.getD t.next true = true := h
  rw [advanceAt, advance, if_neg hunmarked]
  dsimp only
  cases hx : program[t.next]? with
  | none => exact .inr ⟨by simp, [], front, ⟨by simp, by simp [step_iff, hx], by simp [hx], rfl⟩, rfl⟩
  | some x =>
    cases x with
    | accept => exact .inl ⟨rfl, rfl⟩
    | read chars =>
      refine .inr ⟨by simp, [], { front with waiting := (chars, ⟨t.next + 1, t.notes⟩) :: front.waiting },
        ⟨by simp, by simp [step_iff, hx], fun y => ?_, rfl⟩, rfl⟩
      simp [hx, Prod.ext_iff, or_comm, eq_comm]
    | check a =>
      refine .inr ⟨by simp, if a.holds (text.take place).getLast? text[place]? then [⟨t.next + 1, t.notes⟩] else [],
        front, ?_, ?_⟩
      · split
        · next hholds => exact ⟨by simp, by simp [step_iff, hx, Anchor.HoldsAt, hholds], by simp [hx], rfl⟩
        · next hholds => exact ⟨by simp, by simp [step_iff, hx, Anchor.HoldsAt, hholds], by simp [hx], rfl⟩
      · dsimp only
        split <;> rfl
    | split preferred other =>
      refine .inr ⟨by simp, [⟨preferred, t.notes⟩, ⟨other, t.notes⟩], front, ⟨by simp, ?_, by simp [hx], rfl⟩, rfl⟩
      simp [step_iff, hx]
    | jump target =>
      refine .inr ⟨by simp, [⟨target, t.notes⟩], front, ⟨by simp, ?_, by simp [hx], rfl⟩, rfl⟩
      simp [step_iff, hx, @eq_comm _ target]
    | note slot =>
      refine .inr ⟨by simp, [⟨t.next + 1, (slot, place) :: t.notes⟩], front, ⟨by simp, ?_, by simp [hx], rfl⟩, rfl⟩
      simp [step_iff, hx]

/-! ### Ways through the program -/

/-- Ways through a program that begin at some place of the text lead here. -/
def Reached (program : Array Instruction) (text : List Char) (s : Nat × Nat) : Prop :=
  ∃ i ≤ text.length, Relation.ReflTransGen (Step program text) (0, i) s

theorem Reached.step {s s' : Nat × Nat} (h : Reached program text s) (hstep : Step program text s s') :
    Reached program text s' := by
  obtain ⟨i, hi, hway⟩ := h
  exact ⟨i, hi, hway.tail hstep⟩

/-- Ways lead to acceptance. -/
def Accepted (program : Array Instruction) (text : List Char) : Prop :=
  ∃ pc i, program[pc]? = some .accept ∧ Reached program text (pc, i)

/-- The threads of a front, and the match it has reached, are where ways lead. -/
structure Front.Sound (program : Array Instruction) (text : List Char) (place : Nat) (front : Front) : Prop where
  waiting : ∀ x ∈ front.waiting, ∃ pc, program[pc]? = some (.read x.1) ∧ x.2.next = pc + 1 ∧
    Reached program text (pc, place)
  reached : front.reached.isSome → Accepted program text

namespace Front.Sound

variable {place : Nat} {front : Front}

theorem found (h : front.Sound program text place) {found : Option Notes}
    (hfound : found.isSome → Accepted program text) : (front.reached <|> found).isSome → Accepted program text := by
  cases hreached : front.reached with
  | none => simpa using hfound
  | some notes => exact fun _ => h.reached (by rw [hreached]; rfl)

theorem goOn (h : front.Sound program text place) {c : Char} (hc : text[place]? = some c) :
    ∀ t ∈ front.goOn c, Reached program text (t.next, place + 1) := by
  intro t ht
  obtain ⟨chars, hwaiting, hmem⟩ := mem_goOn.1 ht
  obtain ⟨pc, hread, hnext, hreached⟩ := h.waiting _ hwaiting
  exact hnext ▸ hreached.step (.read hread hc hmem)

theorem followed {t : Thread} {next : List Thread} {front' : Front} (h : front.Sound program text place)
    (hfollowed : Followed program text place t next front front') (ht : Reached program text (t.next, place)) :
    front'.Sound program text place where
  waiting x hx := by
    rcases (hfollowed.waits x).1 hx with hx | ⟨hread, hx⟩
    · exact h.waiting x hx
    · exact ⟨t.next, hread, by rw [hx], ht⟩
  reached := hfollowed.reached ▸ h.reached

end Front.Sound

/-- What is followed from where ways lead stays where ways lead. -/
theorem advanceAt_sound (place fuel : Nat) (seen : Array Bool) {threads : List Thread} {front : Front}
    (hthreads : ∀ t ∈ threads, Reached program text (t.next, place)) (hfront : front.Sound program text place) :
    (advanceAt program text place fuel threads seen front).Sound program text place := by
  induction fuel generalizing threads seen front with
  | zero => rwa [advanceAt, advance]
  | succ fuel ih =>
    cases threads with
    | nil => simpa [advanceAt, advance] using hfront
    | cons t threads =>
      obtain ⟨ht, hrest⟩ := List.forall_mem_cons.1 hthreads
      by_cases hmarked : Marked seen t.next
      · rw [advanceAt_marked hmarked]
        exact ih seen hrest hfront
      · rcases advanceAt_unmarked hmarked with ⟨haccept, hstep⟩ | ⟨-, next, front', hfollowed, hstep⟩
        · rw [hstep]
          exact ⟨hfront.waiting, fun _ => ⟨t.next, place, haccept, ht⟩⟩
        · rw [hstep]
          refine ih _ (List.forall_mem_append.2 ⟨fun t' ht' => ?_, hrest⟩) (hfront.followed hfollowed ht)
          exact ht.step ((hfollowed.goesOn _).2 ⟨t', ht', rfl⟩)

theorem frontAt_sound {place : Nat} (hplace : place ≤ text.length) {threads : List Thread}
    (hthreads : ∀ t ∈ threads, Reached program text (t.next, place)) (found : Option Notes) :
    (frontAt program text place threads found).Sound program text place := by
  refine advanceAt_sound place _ _ ?_ ⟨by simp, by simp⟩
  rw [startedAt]
  split
  · exact hthreads
  · exact List.forall_mem_append.2 ⟨hthreads, List.forall_mem_singleton.2 ⟨place, hplace, .refl⟩⟩

/-- What is found from a place on is a match. -/
theorem runAt_sound {place : Nat} (hplace : place ≤ text.length) {threads : List Thread} {found : Option Notes}
    (hthreads : ∀ t ∈ threads, Reached program text (t.next, place)) (hfound : found.isSome → Accepted program text)
    (h : (runAt program text place threads found).isSome) : Accepted program text := by
  induction hleft : text.length - place generalizing place threads found with
  | zero =>
    rw [runAt_end (by omega)] at h
    exact (frontAt_sound hplace hthreads _).found hfound h
  | succ left ih =>
    have hc : text[place]? = some text[place] := List.getElem?_eq_getElem (by omega)
    have hfront := frontAt_sound hplace hthreads found
    rw [runAt_next hc] at h
    dsimp only at h
    split at h
    · exact hfront.found hfound h
    · exact ih (by omega) (hfront.goOn hc) (hfront.found hfound) h (by omega)

/--
What was found so far from marked instructions. None of them accepts, those that read wait, and from each the ways go
on to marked instructions or to threads that are still to be followed.
-/
structure Front.Complete (program : Array Instruction) (text : List Char) (place : Nat) (seen : Array Bool)
    (pending : List Thread) (front : Front) : Prop where
  goesOn : ∀ pc pc', Marked seen pc → Step program text (pc, place) (pc', place) →
    Marked seen pc' ∨ ∃ t ∈ pending, pc' = t.next
  waits : ∀ pc chars, Marked seen pc → program[pc]? = some (.read chars) →
    ∃ t, (chars, t) ∈ front.waiting ∧ t.next = pc + 1
  not_accept : ∀ pc, Marked seen pc → program[pc]? ≠ some .accept

namespace Front.Complete

variable {place : Nat} {seen : Array Bool} {t : Thread} {threads : List Thread} {front : Front}

theorem marked (h : front.Complete program text place seen (t :: threads)) (ht : Marked seen t.next) :
    front.Complete program text place seen threads where
  goesOn pc pc' hpc hstep := by
    rcases h.goesOn pc pc' hpc hstep with hmarked | ⟨t', ht', rfl⟩
    · exact .inl hmarked
    · rcases List.mem_cons.1 ht' with rfl | ht'
      · exact .inl ht
      · exact .inr ⟨t', ht', rfl⟩
  waits := h.waits
  not_accept := h.not_accept

theorem followed {next : List Thread} {front' : Front} (h : front.Complete program text place seen (t :: threads))
    (hfollowed : Followed program text place t next front front') (haccept : program[t.next]? ≠ some .accept) :
    front'.Complete program text place (seen.setIfInBounds t.next true) (next ++ threads) where
  goesOn pc pc' hpc hstep := by
    simp only [marked_setIfInBounds, List.mem_append] at hpc ⊢
    rcases hpc with rfl | hpc
    · obtain ⟨t', ht', rfl⟩ := (hfollowed.goesOn pc').1 hstep
      exact .inr ⟨t', .inl ht', rfl⟩
    · rcases h.goesOn pc pc' hpc hstep with hmarked | ⟨t', ht', rfl⟩
      · exact .inl (.inr hmarked)
      · rcases List.mem_cons.1 ht' with rfl | ht'
        · exact .inl (.inl rfl)
        · exact .inr ⟨t', .inr ht', rfl⟩
  waits pc chars hpc hread := by
    rcases marked_setIfInBounds.1 hpc with rfl | hpc
    · exact ⟨⟨t.next + 1, t.notes⟩, (hfollowed.waits _).2 (.inr ⟨hread, rfl⟩), rfl⟩
    · obtain ⟨t', ht', hnext⟩ := h.waits pc chars hpc hread
      exact ⟨t', (hfollowed.waits _).2 (.inl ht'), hnext⟩
  not_accept pc hpc := by
    rcases marked_setIfInBounds.1 hpc with rfl | hpc
    · exact haccept
    · exact h.not_accept pc hpc

/-- From marked instructions a program comes to accept only by way of a thread that goes on with the next character. -/
theorem accepts (h : front.Complete program text place seen []) {n pc : Nat} (hpc : Marked seen pc)
    (haccepts : Accepts program text n (pc, place)) :
    ∃ c, text[place]? = some c ∧ ∃ t ∈ front.goOn c, ∃ m, Accepts program text m (t.next, place + 1) := by
  induction n generalizing pc with
  | zero =>
    cases haccepts with
    | here haccept => exact absurd haccept (h.not_accept pc hpc)
  | succ n ih =>
    cases haccepts with
    | @step _ _ s hstep hrest =>
      obtain ⟨pc', i⟩ := s
      by_cases hi : i = place
      · subst hi
        rcases h.goesOn pc pc' hpc hstep with hpc' | ⟨t, ht, -⟩
        · exact ih hpc' hrest
        · cases ht
      · rcases step_iff.1 hstep with ⟨chars, c, hread, hc, hmem, rfl, rfl⟩ | hother
        · obtain ⟨t, ht, hnext⟩ := h.waits pc chars hpc hread
          exact ⟨c, hc, t, mem_goOn.2 ⟨chars, ht, hmem⟩, n, hnext ▸ hrest⟩
        · grind

end Front.Complete

/-- Unless a match is reached, threads are followed to wherever ways lead from them. -/
theorem advanceAt_complete {place fuel : Nat} {seen : Array Bool} {threads : List Thread} {front : Front}
    (hfuel : threads.length + 2 * seen.count false ≤ fuel) (h : front.Complete program text place seen threads) :
    (advanceAt program text place fuel threads seen front).reached.isSome ∨
      ∃ seen', (∀ pc, Marked seen pc → Marked seen' pc) ∧ (∀ t ∈ threads, Marked seen' t.next) ∧
        (advanceAt program text place fuel threads seen front).Complete program text place seen' [] := by
  induction fuel generalizing threads seen front with
  | zero =>
    obtain rfl : threads = [] := List.length_eq_zero_iff.1 (by omega)
    exact .inr ⟨seen, fun _ => id, by simp, h⟩
  | succ fuel ih =>
    cases threads with
    | nil => exact .inr ⟨seen, fun _ => id, by simp, by simpa [advanceAt, advance] using h⟩
    | cons t threads =>
      by_cases hmarked : Marked seen t.next
      · rw [advanceAt_marked hmarked]
        refine (ih (by simp at hfuel; omega) (h.marked hmarked)).imp_right ?_
        rintro ⟨seen', hseen, hthreads, hcomplete⟩
        exact ⟨seen', hseen, List.forall_mem_cons.2 ⟨hseen _ hmarked, hthreads⟩, hcomplete⟩
      · rcases advanceAt_unmarked hmarked with ⟨-, hstep⟩ | ⟨haccept, next, front', hfollowed, hstep⟩
        · rw [hstep]
          exact .inl rfl
        · have hcount := count_setIfInBounds hmarked
          have hfew := hfollowed.few
          rw [hstep]
          refine (ih (by simp at hfuel ⊢; omega) (h.followed hfollowed haccept)).imp_right ?_
          rintro ⟨seen', hseen, hthreads, hcomplete⟩
          refine ⟨seen', fun pc hpc => hseen pc (marked_setIfInBounds.2 (.inr hpc)), ?_, hcomplete⟩
          exact List.forall_mem_cons.2 ⟨hseen _ (marked_setIfInBounds.2 (.inl rfl)), (List.forall_mem_append.1 hthreads).2⟩

theorem frontAt_complete (place : Nat) (threads : List Thread) (found : Option Notes) :
    (frontAt program text place threads found).reached.isSome ∨
      ∃ seen, (∀ t ∈ startedAt threads found, Marked seen t.next) ∧
        (frontAt program text place threads found).Complete program text place seen [] := by
  have hunmarked (pc : Nat) (hpc : Marked (Array.replicate program.size false) pc) : program[pc]? = none := by
    simp only [Marked, Array.getD_eq_getD_getElem?, Array.getElem?_replicate] at hpc
    grind
  have hinitial : Front.Complete program text place (Array.replicate program.size false) (startedAt threads found) {} := by
    refine ⟨fun pc pc' hpc hstep => ?_, fun pc chars hpc => ?_, fun pc hpc => ?_⟩
    · simp [step_iff, hunmarked pc hpc] at hstep
    · simp [hunmarked pc hpc]
    · simp [hunmarked pc hpc]
  refine (advanceAt_complete (by simp) hinitial).imp_right ?_
  rintro ⟨seen, -, hthreads, hcomplete⟩
  exact ⟨seen, hthreads, hcomplete⟩

/-- What was found is kept. -/
theorem isSome_runAt_of_found {place : Nat} {threads : List Thread} {found : Option Notes} (h : found.isSome) :
    (runAt program text place threads found).isSome := by
  induction hleft : text.length - place generalizing place threads found with
  | zero =>
    rw [runAt_end (by omega)]
    simp [h]
  | succ left ih =>
    have hc : text[place]? = some text[place] := List.getElem?_eq_getElem (by omega)
    rw [runAt_next hc]
    dsimp only
    split
    · simp [h]
    · exact ih (by simp [h]) (by omega)

/-- If a thread at a place comes to accept, it does so there or by way of one that goes on with the next character. -/
theorem frontAt_accepts {place n : Nat} {t : Thread} {threads : List Thread} {found : Option Notes}
    (ht : t ∈ startedAt threads found) (haccepts : Accepts program text n (t.next, place)) :
    (frontAt program text place threads found).reached.isSome ∨
      ∃ c, text[place]? = some c ∧ ∃ t ∈ (frontAt program text place threads found).goOn c, ∃ m,
        Accepts program text m (t.next, place + 1) := by
  refine (frontAt_complete place threads found).imp_right ?_
  rintro ⟨seen, hthreads, hcomplete⟩
  exact hcomplete.accepts (hthreads t ht) haccepts

/-- A match is found from a place on if a thread there, or one that starts further on, comes to accept. -/
theorem isSome_runAt_of_accepts {place : Nat} {threads : List Thread}
    (h : (∃ t ∈ startedAt threads none, ∃ n, Accepts program text n (t.next, place)) ∨
      ∃ i, place < i ∧ i ≤ text.length ∧ ∃ n, Accepts program text n (0, i)) :
    (runAt program text place threads none).isSome := by
  induction hleft : text.length - place generalizing place threads with
  | zero =>
    rw [runAt_end (by omega)]
    rcases h with ⟨t, ht, n, hn⟩ | ⟨i, hplace, hi, -⟩
    · rcases frontAt_accepts ht hn with hreached | ⟨c, hc, -⟩
      · simp [hreached]
      · have hlt := (List.getElem?_eq_some_iff.1 hc).1
        omega
    · omega
  | succ left ih =>
    have hc : text[place]? = some text[place] := List.getElem?_eq_getElem (by omega)
    rw [runAt_next hc]
    dsimp only
    cases hreached : (frontAt program text place threads none).reached with
    | some notes =>
      split
      · rfl
      · exact isSome_runAt_of_found rfl
    | none =>
      have hfurther : (runAt program text (place + 1) ((frontAt program text place threads none).goOn text[place])
          none).isSome := by
        refine ih ?_ (by omega)
        rcases h with ⟨t, ht, n, hn⟩ | ⟨i, hplace, hi, hn⟩
        · rcases frontAt_accepts ht hn with hsome | ⟨c, hc', t', ht', hm⟩
          · simp [hreached] at hsome
          · obtain rfl : text[place] = c := Option.some.inj (hc.symm.trans hc')
            exact .inl ⟨t', List.mem_append_left _ ht', hm⟩
        · rcases Nat.eq_or_lt_of_le hplace with rfl | hlt
          · exact .inl ⟨⟨0, []⟩, List.mem_append_right _ (List.mem_singleton.2 rfl), hn⟩
          · exact .inr ⟨i, hlt, hi, hn⟩
      simpa using hfurther

/-- A match is found if and only if the pattern matches somewhere. -/
theorem isSome_find?_iff {p : Pattern} : (p.find? text).isSome ↔ ∃ i ≤ text.length, ∃ j, p.Matches text i j := by
  constructor
  · intro h
    obtain ⟨pc, j, haccept, i, hi, hway⟩ := runAt_sound (Nat.zero_le _) (by simp) (by simp) h
    exact ⟨i, hi, accepts_program_iff.1 (exists_accepts_of_way hway haccept)⟩
  · rintro ⟨i, hi, hmatch⟩
    have hn := accepts_program_iff.2 hmatch
    have hfound : (runAt p.program text 0 [] none).isSome := by
      refine isSome_runAt_of_accepts ?_
      rcases Nat.eq_zero_or_pos i with rfl | hpos
      · exact .inl ⟨⟨0, []⟩, List.mem_singleton.2 rfl, hn⟩
      · exact .inr ⟨i, hpos, hi, hn⟩
    exact hfound

end AttributeRelease.Regex
