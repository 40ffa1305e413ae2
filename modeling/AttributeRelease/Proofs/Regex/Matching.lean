import AttributeRelease.Regex.Composition
import Mathlib.Data.List.Basic

/-!
What it means that a pattern matches from one place of a text to another. Places are counted from the beginning of
the text, and what is before and after a place decides the conditions on it. Putting patterns together in a simpler
form does not change what they match.
-/

namespace AttributeRelease.Regex

/-- So many rounds of a relation, one after another. -/
def Rounds (R : Nat → Nat → Prop) : Nat → Nat → Nat → Prop
  | 0, i, j => j = i
  | n + 1, i, j => ∃ k, R i k ∧ Rounds R n k j

namespace Rounds

variable {R : Nat → Nat → Prop} {m n i j k : Nat}

theorem add_iff : Rounds R (m + n) i j ↔ ∃ k, Rounds R m i k ∧ Rounds R n k j := by
  induction m generalizing i with
  | zero => simp [Rounds]
  | succ m ih =>
    rw [Nat.succ_add]
    simp only [Rounds, ih]
    grind

theorem exists_iff : (∃ n, Rounds R n i j) ↔ (∃ k, R i k ∧ ∃ n, Rounds R n k j) ∨ j = i := by
  constructor
  · rintro ⟨_ | n, hn⟩
    · exact .inr hn
    · obtain ⟨k, hfirst, hrest⟩ := hn
      exact .inl ⟨k, hfirst, n, hrest⟩
  · rintro (⟨k, hfirst, n, hrest⟩ | h)
    · exact ⟨n + 1, k, hfirst, hrest⟩
    · exact ⟨0, h⟩

theorem exists_le_succ : (∃ m ≤ n + 1, Rounds R m i j) ↔ (∃ k, R i k ∧ ∃ m ≤ n, Rounds R m k j) ∨ j = i := by
  constructor
  · rintro ⟨_ | m, hm, hrounds⟩
    · exact .inr hrounds
    · obtain ⟨k, hfirst, hrest⟩ := hrounds
      exact .inl ⟨k, hfirst, m, Nat.le_of_succ_le_succ hm, hrest⟩
  · rintro (⟨k, hfirst, m, hm, hrest⟩ | h)
    · exact ⟨m + 1, Nat.succ_le_succ hm, k, hfirst, hrest⟩
    · exact ⟨0, Nat.zero_le _, h⟩

/-- At least so many rounds are that many and further ones. -/
theorem exists_ge_iff {P : Nat → Prop} :
    (∃ n, m ≤ n ∧ P n ∧ Rounds R n i j) ↔ ∃ k, Rounds R m i k ∧ ∃ n, P (m + n) ∧ Rounds R n k j := by
  constructor
  · rintro ⟨n, hm, hP, hn⟩
    obtain ⟨n, rfl⟩ := Nat.exists_eq_add_of_le hm
    obtain ⟨k, hfirst, hrest⟩ := add_iff.1 hn
    exact ⟨k, hfirst, n, hP, hrest⟩
  · rintro ⟨k, hfirst, n, hP, hrest⟩
    exact ⟨m + n, Nat.le_add_right m n, hP, add_iff.2 ⟨k, hfirst, hrest⟩⟩

/-- What a round keeps is kept by any number of them. -/
theorem keeps {P : Nat → Prop} (hround : ∀ i j, R i j → P i → P j) (h : Rounds R n i j) (hi : P i) : P j := by
  induction n generalizing i with
  | zero =>
    cases h
    exact hi
  | succ n ih =>
    obtain ⟨k, hfirst, hrest⟩ := h
    exact ih hrest (hround i k hfirst hi)

end Rounds

/-- Whether a condition holds at a place in a text. -/
def Anchor.HoldsAt (a : Anchor) (text : List Char) (i : Nat) : Prop := a.holds (text.take i).getLast? text[i]? = true

namespace Pattern

/-- Whether a pattern matches from one place in a text to another. -/
def Matches (text : List Char) : Pattern → Nat → Nat → Prop
  | .empty, i, j => j = i
  | .literal cs, i, j => cs <+: text.drop i ∧ j = i + cs.length
  | .one chars, i, j => (∃ c, text[i]? = some c ∧ chars.contains c.toNat = true) ∧ j = i + 1
  | .anchor a, i, j => a.HoldsAt text i ∧ j = i
  | .seq p q, i, j => ∃ k, p.Matches text i k ∧ q.Matches text k j
  | .alt p q, i, j => p.Matches text i j ∨ q.Matches text i j
  | .repeated _ least most p, i, j =>
    ∃ n, least ≤ n ∧ (∀ m, most = some m → n ≤ max least m) ∧ Rounds (p.Matches text) n i j
  | .group _ p, i, j => p.Matches text i j

variable {text : List Char} {i j : Nat}

theorem Matches.le_length {p : Pattern} (h : p.Matches text i j) (hi : i ≤ text.length) : j ≤ text.length := by
  induction p generalizing i j with
  | empty => exact h ▸ hi
  | literal cs =>
    obtain ⟨hbegins, rfl⟩ := h
    have hlength := hbegins.length_le
    rw [List.length_drop] at hlength
    omega
  | one chars =>
    obtain ⟨⟨c, hc, -⟩, rfl⟩ := h
    exact (List.getElem?_eq_some_iff.1 hc).1
  | anchor a => exact h.2 ▸ hi
  | seq p q ihp ihq =>
    obtain ⟨k, hp, hq⟩ := h
    exact ihq hq (ihp hp hi)
  | alt p q ihp ihq => exact h.elim (ihp · hi) (ihq · hi)
  | repeated _ _ _ p ih =>
    obtain ⟨n, -, -, hrounds⟩ := h
    exact hrounds.keeps (P := (· ≤ text.length)) (fun _ _ => ih) hi
  | group _ p ih => exact ih h hi

/-- Patterns that match one after another. -/
def MatchAll (text : List Char) : List Pattern → Nat → Nat → Prop
  | [], i, j => j = i
  | p :: ps, i, j => ∃ k, p.Matches text i k ∧ MatchAll text ps k j

theorem matchAll_append (ps qs : List Pattern) :
    MatchAll text (ps ++ qs) i j ↔ ∃ k, MatchAll text ps i k ∧ MatchAll text qs k j := by
  induction ps generalizing i with
  | nil => simp [MatchAll]
  | cons p ps ih =>
    simp only [List.cons_append, MatchAll, ih]
    grind

theorem matchAll_singleton (p : Pattern) : MatchAll text [p] i j ↔ p.Matches text i j := by
  simp [MatchAll]

theorem matchAll_items (p : Pattern) : MatchAll text p.items i j ↔ p.Matches text i j := by
  induction p generalizing i with
  | seq p q _ ih => simp only [items, MatchAll, Matches, ih]
  | empty => rfl
  | literal | one | anchor | alt | repeated | group => exact matchAll_singleton _

theorem matchAll_flatMap_items (ps : List Pattern) : MatchAll text (ps.flatMap items) i j ↔ MatchAll text ps i j := by
  induction ps generalizing i with
  | nil => rfl
  | cons p ps ih => simp only [List.flatMap_cons, matchAll_append, matchAll_items, ih, MatchAll]

/-- A text matches as its two parts do, one after the other. -/
theorem matches_literal_append (cs ds : List Char) :
    (literal (cs ++ ds)).Matches text i j ↔ MatchAll text [literal cs, literal ds] i j := by
  have hbegins : cs ++ ds <+: text.drop i ↔ cs <+: text.drop i ∧ ds <+: text.drop (i + cs.length) := by
    constructor
    · rintro ⟨rest, hrest⟩
      refine ⟨⟨ds ++ rest, by rw [← hrest, List.append_assoc]⟩, rest, ?_⟩
      rw [← List.drop_drop, ← hrest, List.append_assoc, List.drop_left]
    · rintro ⟨⟨rest, hrest⟩, hds⟩
      rw [← List.drop_drop, ← hrest, List.drop_left] at hds
      rw [← hrest]
      exact (List.prefix_append_right_inj cs).2 hds
  simp [MatchAll, Matches, hbegins, Nat.add_assoc, and_assoc]

theorem matchAll_joinTexts (ps : List Pattern) : MatchAll text (joinTexts ps) i j ↔ MatchAll text ps i j := by
  induction ps using joinTexts.induct generalizing i with
  | case1 => rfl
  | case2 cs rest more rest' hjoin ih =>
    rw [joinTexts, hjoin]
    calc MatchAll text (.literal (cs ++ more) :: rest') i j
      _ ↔ MatchAll text ([.literal (cs ++ more)] ++ rest') i j := .rfl
      _ ↔ MatchAll text ([.literal cs, .literal more] ++ rest') i j := by
        simp only [matchAll_append, matchAll_singleton, matches_literal_append]
      _ ↔ MatchAll text (.literal cs :: joinTexts rest) i j := by rw [hjoin]; rfl
      _ ↔ MatchAll text (.literal cs :: rest) i j := by simp only [MatchAll, ih]
  | case3 cs rest hother ih =>
    rw [joinTexts.eq_2]
    split
    · next more rest' hjoin => exact absurd hjoin (hother more rest')
    · simp only [MatchAll, ih]
  | case4 p rest hother ih => simp only [joinTexts.eq_3 p rest hother, MatchAll, ih]

theorem matches_ofItems (ps : List Pattern) : (ofItems ps).Matches text i j ↔ MatchAll text ps i j := by
  induction ps using ofItems.induct generalizing i with
  | case1 => rfl
  | case2 p => rw [ofItems, matchAll_singleton]
  | case3 p rest hrest ih => simp only [ofItems, Matches, MatchAll, ih]

theorem matches_concat (ps : List Pattern) : (concat ps).Matches text i j ↔ MatchAll text ps i j := by
  rw [concat, matches_ofItems, matchAll_joinTexts, matchAll_flatMap_items]

/-- What is tied to both ends of a text matches it as a whole. -/
theorem matches_tied (p : Pattern) (hi : i ≤ text.length) :
    (concat [.anchor .textStart, p, .anchor .textEnd]).Matches text i j ↔
      i = 0 ∧ j = text.length ∧ p.Matches text 0 text.length := by
  have hstart {k : Nat} (hk : k ≤ text.length) : Anchor.textStart.HoldsAt text k ↔ k = 0 := by
    simp [Anchor.HoldsAt, Anchor.holds]
    grind
  have hend {k : Nat} (hk : k ≤ text.length) : Anchor.textEnd.HoldsAt text k ↔ k = text.length := by
    simp [Anchor.HoldsAt, Anchor.holds]
    omega
  simp only [matches_concat, MatchAll, Matches]
  constructor
  · rintro ⟨_, ⟨hfirst, rfl⟩, k, hp, _, ⟨hlast, rfl⟩, rfl⟩
    obtain rfl := (hstart hi).1 hfirst
    obtain rfl := (hend (hp.le_length hi)).1 hlast
    exact ⟨rfl, rfl, hp⟩
  · rintro ⟨rfl, rfl, hp⟩
    exact ⟨0, ⟨(hstart hi).2 rfl, rfl⟩, _, hp, _, ⟨(hend (Nat.le_refl _)).2 rfl, rfl⟩, rfl⟩

end Pattern

end AttributeRelease.Regex
