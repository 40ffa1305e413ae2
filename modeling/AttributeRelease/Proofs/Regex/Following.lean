import AttributeRelease.Regex.Reader
import Mathlib.Data.List.TakeWhile

/-!
Reading in a text that may go on. A pattern that is to match a whole text is put into a group, so it is followed by the
end of that group and the condition on the end of the text. A reading follows another one if it makes the same of a
state in which more may follow; readings are put together from parts that do.
-/

namespace AttributeRelease.Unicode

theorem CharRange.any_contains_joinTo {r : CharRange} {rs : List CharRange} {c : Nat}
    (h : (joinTo r rs).any (·.contains c) = true) : (r :: rs).any (·.contains c) = true := by
  induction rs generalizing r with
  | nil => exact h
  | cons s rs ih =>
    simp only [List.any_cons, Bool.or_eq_true] at ih ⊢
    rw [joinTo] at h
    split at h
    · next htouch =>
      rcases ih h with hunited | hrest
      · simp only [contains, Bool.and_eq_true, decide_eq_true_eq] at hunited ⊢
        omega
      · exact .inr (.inr hrest)
    · rw [List.any_cons, Bool.or_eq_true] at h
      exact h.imp_right ih

/-- A character of a class belongs to one of the ranges that the class was made of. -/
theorem CharSet.contains_ofRanges {rs : List CharRange} {c : Nat} (h : (ofRanges rs).contains c = true) :
    rs.any (·.contains c) = true := by
  rw [ofRanges, contains] at h
  have hsorted : (rs.mergeSort CharRange.precedes).any (·.contains c) = true := by
    cases hrs : rs.mergeSort CharRange.precedes with
    | nil => rwa [hrs] at h
    | cons r rest =>
      rw [hrs] at h
      exact CharRange.any_contains_joinTo h
  simpa using hsorted

end AttributeRelease.Unicode

namespace AttributeRelease.Regex.Reader

open Unicode

/-! ### What may follow -/

/-- What closes the group around a pattern that is to match a whole text, and follows it. -/
def ending : List Char := [')', '$']

theorem isBlank_ending : isBlank ')' = false := by
  refine Bool.eq_false_iff.2 fun h => ?_
  exact absurd (CharSet.contains_ofRanges h) (by decide +kernel)

/-- The same characters, or the same with the ending after them. -/
inductive Prolonged : List Char → List Char → Prop
  | nil : Prolonged [] []
  | ending : Prolonged [] ending
  | cons (c : Char) {cs ds : List Char} (h : Prolonged cs ds) : Prolonged (c :: cs) (c :: ds)

namespace Prolonged

theorem append_ending (cs : List Char) : Prolonged cs (cs ++ Reader.ending) := by
  induction cs with
  | nil => exact .ending
  | cons c cs ih => exact .cons c ih

variable {cs ds : List Char}

theorem dropSpace (h : Prolonged cs ds) (inComment : Bool) :
    Prolonged (dropSpace inComment cs) (Reader.dropSpace inComment ds) := by
  induction h generalizing inComment with
  | nil => exact .nil
  | ending =>
    cases inComment with
    | true => exact .nil
    | false => simpa [Reader.ending, Reader.dropSpace, isBlank_ending] using Prolonged.ending
  | cons c h ih =>
    simp only [Reader.dropSpace]
    split
    · exact ih _
    · split
      · exact ih _
      · split
        · exact ih _
        · exact .cons c h

theorem skip (h : Prolonged cs ds) (spaced : Bool) : Prolonged (skip spaced cs) (Reader.skip spaced ds) := by
  cases spaced with
  | true => exact h.dropSpace false
  | false => exact h

theorem dropWhile (h : Prolonged cs ds) {p : Char → Bool} (hp : p ')' = false) :
    Prolonged (cs.dropWhile p) (ds.dropWhile p) := by
  induction h with
  | nil => exact .nil
  | ending => simpa [Reader.ending, hp] using Prolonged.ending
  | cons c h ih =>
    simp only [List.dropWhile_cons]
    split
    · exact ih
    · exact .cons c h

end Prolonged

/-- Up to a character that stands before what may follow, everything is the same. -/
theorem Prolonged.takeWhile {cs ds : List Char} (h : Prolonged cs ds) {p : Char → Bool} (hleft : cs.dropWhile p ≠ []) :
    ds.takeWhile p = cs.takeWhile p ∧ Prolonged (cs.dropWhile p) (ds.dropWhile p) := by
  induction h with
  | nil => exact ⟨rfl, .nil⟩
  | ending => simp at hleft
  | @cons c cs ds h ih =>
    simp only [List.takeWhile_cons, List.dropWhile_cons] at hleft ⊢
    split
    · next hc =>
      simp only [hc, if_true] at hleft
      obtain ⟨htaken, hrest⟩ := ih hleft
      exact ⟨congrArg (c :: ·) htaken, hrest⟩
    · exact ⟨rfl, .cons c h⟩

/-- If all characters pass a test, so do those with what may follow. -/
theorem Prolonged.dropWhile_eq_nil {cs ds : List Char} (h : Prolonged cs ds) {p : Char → Bool}
    (hending : ∀ c ∈ Reader.ending, p c = true) (hcs : cs.dropWhile p = []) : ds.dropWhile p = [] := by
  rw [List.dropWhile_eq_nil_iff] at hcs ⊢
  induction h with
  | nil => exact hcs
  | ending => exact hending
  | cons c h ih =>
    obtain ⟨hc, hcs⟩ := List.forall_mem_cons.1 hcs
    exact List.forall_mem_cons.2 ⟨hc, ih hcs⟩

theorem length_dropSpace_le (inComment : Bool) (cs : List Char) : (dropSpace inComment cs).length ≤ cs.length := by
  induction cs generalizing inComment with
  | nil => simp [dropSpace]
  | cons c cs ih =>
    rw [dropSpace]
    grind

theorem length_skip_le (spaced : Bool) (cs : List Char) : (skip spaced cs).length ≤ cs.length := by
  cases spaced with
  | true => exact length_dropSpace_le false cs
  | false => exact Nat.le_refl _

theorem takeSpaced_nil (spaced : Bool) (p : Char → Bool) (n : Nat) : takeSpaced spaced p n [] = ([], []) := by
  cases n <;> rfl

theorem Prolonged.takeSpaced_nil {ds : List Char} (h : Prolonged [] ds) (spaced : Bool) {p : Char → Bool} {n m : Nat}
    (hm : ds.length ≤ m) (hp : p ')' = false) :
    (takeSpaced spaced p m ds).1 = (takeSpaced spaced p n []).1 ∧
      Prolonged (takeSpaced spaced p n []).2 (takeSpaced spaced p m ds).2 := by
  rw [Reader.takeSpaced_nil]
  cases h with
  | nil => simpa [Reader.takeSpaced_nil] using Prolonged.nil
  | ending =>
    obtain ⟨m, rfl⟩ : ∃ k, m = k + 1 := ⟨m - 1, by simp [Reader.ending] at hm; omega⟩
    simpa [Reader.ending, takeSpaced, hp] using Prolonged.ending

/-- The characters that pass a test are the same, unless all do and so does the one that may follow. -/
theorem Prolonged.takeSpaced {cs ds : List Char} (h : Prolonged cs ds) (spaced : Bool) {p : Char → Bool} {n m : Nat}
    (hn : cs.length ≤ n) (hm : ds.length ≤ m) (hp : p ')' = false ∨ (takeSpaced spaced p n cs).2 ≠ []) :
    (Reader.takeSpaced spaced p m ds).1 = (Reader.takeSpaced spaced p n cs).1 ∧
      Prolonged (Reader.takeSpaced spaced p n cs).2 (Reader.takeSpaced spaced p m ds).2 := by
  induction n generalizing cs ds m with
  | zero =>
    obtain rfl : cs = [] := List.length_eq_zero_iff.1 (Nat.le_zero.1 hn)
    exact h.takeSpaced_nil spaced hm (by simpa [Reader.takeSpaced_nil] using hp)
  | succ n ih =>
    cases cs with
    | nil => exact h.takeSpaced_nil spaced hm (by simpa [Reader.takeSpaced_nil] using hp)
    | cons c cs =>
      cases h with
      | @cons _ _ ds h =>
        obtain ⟨m, rfl⟩ : ∃ k, m = k + 1 := ⟨m - 1, by simp at hm; omega⟩
        have hn' := Nat.le_trans (length_skip_le spaced cs) (Nat.le_of_succ_le_succ hn)
        have hm' := Nat.le_trans (length_skip_le spaced ds) (Nat.le_of_succ_le_succ hm)
        simp only [Reader.takeSpaced] at hp ⊢
        by_cases hc : p c
        · simp only [hc, if_true] at hp ⊢
          obtain ⟨htaken, hleft⟩ := ih (h.skip spaced) hn' hm' hp
          exact ⟨congrArg (c :: ·) htaken, hleft⟩
        · simp only [hc]
          exact ⟨rfl, .cons c h⟩

/-- States that differ only in what may follow. -/
structure State.Prolonged (s u : State) : Prop where
  rest : Reader.Prolonged s.rest u.rest
  flags : u.flags = s.flags
  opened : u.opened = s.opened
  names : u.names = s.names

variable {α β : Type}

theorem of_bind {f : Reading α} {k : α → Reading β} {s s'' : State} {b : β} (h : (f >>= k) s = some (b, s'')) :
    ∃ a s', f s = some (a, s') ∧ k a s' = some (b, s'') := by
  obtain ⟨⟨a, s'⟩, ha, hb⟩ := Option.bind_eq_some_iff.1 h
  exact ⟨a, s', ha, hb⟩

/-- What one reading makes of a state, another one makes of one in which more may follow. -/
def Follows (f g : Reading α) (s u : State) : Prop :=
  ∀ a s', f s = some (a, s') → ∃ u', g u = some (a, u') ∧ s'.Prolonged u'

/-- A reading to which it does not matter what follows. -/
def Steady (f : Reading α) : Prop := ∀ s u, s.Prolonged u → Follows f f s u

namespace Follows

variable {s u : State}

theorem pure (a : α) (h : s.Prolonged u) : Follows (Pure.pure a) (Pure.pure a) s u := by
  rintro _ _ ⟨⟩
  exact ⟨u, rfl, h⟩

theorem failure {g : Reading α} : Follows failure g s u := by
  rintro _ _ ⟨⟩

theorem failure_bind {k : α → Reading β} {g : Reading β} : Follows (Alternative.failure >>= k) g s u :=
  failure

theorem bind {f g : Reading α} {k l : α → Reading β} (hf : Follows f g s u)
    (hk : ∀ a s u, s.Prolonged u → Follows (k a) (l a) s u) : Follows (f >>= k) (g >>= l) s u := by
  intro b s'' hb
  obtain ⟨a, s', ha, hb⟩ := of_bind hb
  obtain ⟨u', ha', h'⟩ := hf a s' ha
  obtain ⟨u'', hb', h''⟩ := hk a s' u' h' b s'' hb
  exact ⟨u'', Option.bind_eq_some_iff.2 ⟨_, ha', hb'⟩, h''⟩

/-- What may follow counts only where there is nothing else left. -/
theorem rest_bind {k l : List Char → Reading α} (h : s.Prolonged u)
    (hnil : s.rest = [] → Follows (k []) (l []) s u) (hending : s.rest = [] → Follows (k []) (l ending) s u)
    (hcons : ∀ c cs ds, s.rest = c :: cs → Prolonged cs ds → Follows (k (c :: cs)) (l (c :: ds)) s u) :
    Follows (rest >>= k) (rest >>= l) s u := by
  have hrest := h.rest
  show Follows (k s.rest) (l u.rest) s u
  generalize hs : s.rest = cs at hrest hnil hending hcons ⊢
  generalize u.rest = ds at hrest
  cases hrest with
  | nil => exact hnil rfl
  | ending => exact hending rfl
  | cons c hrest => exact hcons c _ _ rfl hrest

/-- Readings that fail where no character is left. -/
theorem char_bind {k l : List Char → Reading α} (h : s.Prolonged u) (hnil : ∀ g, Follows (k []) g s u)
    (hcons : ∀ c cs ds, s.rest = c :: cs → Prolonged cs ds → Follows (k (c :: cs)) (l (c :: ds)) s u) :
    Follows (rest >>= k) (rest >>= l) s u :=
  rest_bind h (fun _ => hnil _) (fun _ => hnil _) hcons

/-- Readings that go their own way if a certain character stands next. -/
theorem branch_bind {k l : List Char → Reading α} (h : s.Prolonged u) (x : Char) (hclose : x ≠ ')')
    (hk : ∀ cs, cs.head? ≠ some x → k cs = k []) (hl : ∀ cs, cs.head? ≠ some x → l cs = l [])
    (hnext : ∀ cs ds, Prolonged cs ds → Follows (k (x :: cs)) (l (x :: ds)) s u) (hother : Follows (k []) (l []) s u) :
    Follows (rest >>= k) (rest >>= l) s u := by
  refine rest_bind h (fun _ => hother) (fun _ => ?_) fun c cs ds _ hrest => ?_
  · rwa [hl ending (by simpa [ending] using hclose.symm)]
  · by_cases hc : c = x
    · exact hc ▸ hnext cs ds hrest
    · rwa [hk (c :: cs) (by simpa using hc), hl (c :: ds) (by simpa using hc)]

theorem next_bind {k : List Char → Reading α} (h : s.Prolonged u) (x : Char) (hclose : x ≠ ')')
    (hk : ∀ cs, cs.head? ≠ some x → k cs = k [])
    (hnext : ∀ cs ds, Prolonged cs ds → Follows (k (x :: cs)) (k (x :: ds)) s u) (hother : Follows (k []) (k []) s u) :
    Follows (rest >>= k) (rest >>= k) s u :=
  branch_bind h x hclose hk hk hnext hother

theorem get_bind {k l : State → Reading α} (hk : Follows (k s) (l u) s u) : Follows (get >>= k) (get >>= l) s u := hk

theorem goOn {cs ds : List Char} (hcs : Prolonged cs ds) (h : s.Prolonged u) :
    Follows (goOn cs) (Reader.goOn ds) s u := by
  rintro _ _ ⟨⟩
  exact ⟨_, rfl, hcs, h.flags, h.opened, h.names⟩

theorem goOnSkipping {cs ds : List Char} (hcs : Prolonged cs ds) (h : s.Prolonged u) :
    Follows (goOnSkipping cs) (Reader.goOnSkipping ds) s u := by
  rintro _ _ ⟨⟩
  refine ⟨_, rfl, ?_, h.flags, h.opened, h.names⟩
  show Prolonged (Reader.skip s.flags.spaced cs) (Reader.skip u.flags.spaced ds)
  rw [h.flags]
  exact hcs.skip _

end Follows

namespace Steady

theorem pure (a : α) : Steady (Pure.pure a : Reading α) := fun _ _ h => .pure a h

theorem failure : Steady (failure : Reading α) := fun _ _ _ => .failure

theorem failure_bind {k : α → Reading β} : Steady (Alternative.failure >>= k) := fun _ _ _ => .failure

theorem bind {f : Reading α} {k : α → Reading β} (hf : Steady f) (hk : ∀ a, Steady (k a)) : Steady (f >>= k) :=
  fun s u h => (hf s u h).bind hk

/-- A reading that looks at nothing but the flags. -/
theorem flags_bind {k : State → Reading α} (hk : ∀ s, Steady (k s)) (hflags : ∀ s u, u.flags = s.flags → k u = k s) :
    Steady (get >>= k) := by
  intro s u h
  refine .get_bind ?_
  rw [hflags s u h.flags]
  exact hk s s u h

end Steady

theorem rest_bind_of_nil {k : List Char → Reading α} {s : State} (hs : s.rest = []) : (rest >>= k) s = k [] s := by
  show k s.rest s = k [] s
  rw [hs]

theorem skip_follows {s u : State} (h : s.Prolonged u) {k l : Unit → Reading α}
    (hk : ∀ s u, s.Prolonged u → Follows (k ()) (l ()) s u) :
    Follows (rest >>= fun cs => goOnSkipping cs >>= k) (rest >>= fun cs => goOnSkipping cs >>= l) s u :=
  (Follows.goOnSkipping h.rest h).bind fun _ => hk

/-- Readings that begin behind a character that has been looked at already. -/
theorem drop_follows {s u : State} (h : s.Prolonged u) (hs : s.rest ≠ []) {k l : Unit → Reading α}
    (hk : ∀ s u, s.Prolonged u → Follows (k ()) (l ()) s u) :
    Follows (rest >>= fun cs => goOnSkipping (cs.drop 1) >>= k) (rest >>= fun cs => goOnSkipping (cs.drop 1) >>= l) s u := by
  refine .rest_bind h (absurd · hs) (absurd · hs) fun c cs ds _ hrest => ?_
  exact (Follows.goOnSkipping hrest h).bind fun _ => hk

end AttributeRelease.Regex.Reader
