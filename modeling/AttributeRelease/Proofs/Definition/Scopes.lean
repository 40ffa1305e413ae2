import AttributeRelease.Definition.Scope
import AttributeRelease.Filter.Matcher
import AttributeRelease.Proofs.Fallible
import Mathlib.Data.List.TakeWhile

/-!
Where a scope begins. A definition that gives values the scope named in their text takes it from behind the first
delimiter, and a matcher that looks for a scope in a plain text takes it from behind the last one. So a text and the
scoped value made of it are judged alike by every matcher exactly if the delimiter stands in the text only once.
-/

namespace AttributeRelease

theorem takeWhile_dropWhile_iff {d : Char} {cs before after : List Char} :
    cs.takeWhile (· ≠ d) = before ∧ cs.dropWhile (· ≠ d) = d :: after ↔ cs = before ++ d :: after ∧ d ∉ before := by
  constructor
  · rintro ⟨rfl, hdrop⟩
    refine ⟨?_, fun hmem => ?_⟩
    · rw [← hdrop, List.takeWhile_append_dropWhile]
    · simpa using List.mem_takeWhile_imp hmem
  · rintro ⟨rfl, hbefore⟩
    have hall : ∀ c ∈ before, decide (c ≠ d) = true := fun c hc => decide_eq_true fun heq => hbefore (heq ▸ hc)
    rw [List.takeWhile_append_of_pos hall, List.dropWhile_append_of_pos hall]
    simp

theorem dropWhile_ne_eq_cons {d c : Char} {cs rest : List Char} (h : cs.dropWhile (· ≠ d) = c :: rest) : c = d := by
  have hc := List.head?_dropWhile_not (fun c => decide (c ≠ d)) cs
  rw [h] at hc
  simpa using hc

theorem Definition.splitFirst?_eq_some_iff {d : Char} {text before after : String} :
    splitFirst? d text = some (before, after) ↔
      text.toList = before.toList ++ d :: after.toList ∧ d ∉ before.toList := by
  rw [← takeWhile_dropWhile_iff, splitFirst?]
  cases hdrop : text.toList.dropWhile (· ≠ d) with
  | nil => simp
  | cons c rest =>
    obtain rfl := dropWhile_ne_eq_cons hdrop
    simp only [Option.some.injEq, Prod.mk.injEq, ← String.toList_inj, String.toList_ofList, List.cons.injEq,
      true_and]

theorem Matcher.splitLast?_eq_some_iff {d : Char} {text before after : String} :
    splitLast? d text = some (before, after) ↔
      text.toList = before.toList ++ d :: after.toList ∧ d ∉ after.toList := by
  have hreverse : text.toList = before.toList ++ d :: after.toList ↔
      text.toList.reverse = after.toList.reverse ++ d :: before.toList.reverse := by
    rw [← List.reverse_inj]
    simp
  rw [hreverse, ← List.mem_reverse, ← takeWhile_dropWhile_iff, splitLast?]
  cases hdrop : text.toList.reverse.dropWhile (· ≠ d) with
  | nil => simp
  | cons c rest =>
    obtain rfl := dropWhile_ne_eq_cons hdrop
    simp only [Option.some.injEq, Prod.mk.injEq, ← String.toList_inj, String.toList_ofList, List.cons.injEq, true_and,
      List.reverse_eq_iff, and_comm]

theorem Matcher.exists_splitLast? {d : Char} {text : String} (h : d ∈ text.toList) :
    ∃ before after, splitLast? d text = some (before, after) := by
  obtain ⟨after, before, hsplit, hafter⟩ := List.eq_append_cons_of_mem (List.mem_reverse.2 h)
  refine ⟨String.ofList before.reverse, String.ofList after.reverse, splitLast?_eq_some_iff.2 ⟨?_, ?_⟩⟩
  · rw [← List.reverse_inj, hsplit]
    simp
  · simpa using hafter

namespace Definition

theorem scopedOf_eq_ok_iff {d : Char} {text : String} {v : Value} :
    scopedOf d text = .ok v ↔ ∃ before after, splitFirst? d text = some (before, after) ∧ before ≠ "" ∧ after ≠ "" ∧
      v = .scoped before after := by
  rw [scopedOf]
  cases hsplit : splitFirst? d text with
  | none => simp
  | some parts =>
    dsimp only
    split
    · next hparts =>
      constructor
      · intro h
        exact ⟨parts.1, parts.2, rfl, hparts.1, hparts.2, (Except.ok.inj h).symm⟩
      · rintro ⟨before, after, hsome, -, -, rfl⟩
        cases hsome
        rfl
    · next hparts =>
      refine ⟨nofun, ?_⟩
      rintro ⟨before, after, hsome, hbefore, hafter, -⟩
      cases hsome
      exact absurd ⟨hbefore, hafter⟩ hparts

theorem prescoped_eq_ok_iff {d : Char} {text : String} {v : Value} {input : DefinitionInput}
    (hvalues : input.values = [.string text]) : prescoped d input = .ok [v] ↔ scopedOf d text = .ok v := by
  rw [prescoped, hvalues]
  constructor
  · intro h
    obtain ⟨w, hw, h⟩ := of_bind_ok h
    cases h
    exact hw
  · intro h
    exact bind_of_ok h _

end Definition

theorem TextMatch.exact_accepts_iff {value text : String} : (exact value).accepts text = true ↔ text = value :=
  decide_eq_true_iff

/-- **Where a scope begins.** A scoped value made of a text is judged by what stands before and after the first
delimiter, the text by what stands before and after the last one. So every matcher judges both alike exactly if the
delimiter stands in the text only once. -/
theorem scope_is_where_delimiter_is_single (d : Char) (text : String) (v : Value) (input : DefinitionInput)
    (hvalues : input.values = [.string text]) (h : Definition.prescoped d input = .ok [v]) (ctx : Filter.Context) :
    (∃ before after, text.toList = before.toList ++ d :: after.toList ∧ d ∉ before.toList ∧
      ∀ l s, Matcher.test v ctx (.scopedText l s d) = .ok (l.accepts before && s.accepts after)) ∧
    (∃ before after, text.toList = before.toList ++ d :: after.toList ∧ d ∉ after.toList ∧
      ∀ l s, Matcher.test (.string text) ctx (.scopedText l s d) = .ok (l.accepts before && s.accepts after)) ∧
    ((∀ l s, Matcher.test (.string text) ctx (.scopedText l s d) = Matcher.test v ctx (.scopedText l s d)) ↔
      text.toList.count d = 1) := by
  obtain ⟨before, after, hfirst, -, -, rfl⟩ :=
    Definition.scopedOf_eq_ok_iff.1 ((Definition.prescoped_eq_ok_iff hvalues).1 h)
  obtain ⟨htext, hbefore⟩ := Definition.splitFirst?_eq_some_iff.1 hfirst
  have hmem : d ∈ text.toList := by simp [htext]
  obtain ⟨before', after', hlast⟩ := Matcher.exists_splitLast? hmem
  obtain ⟨htext', hafter'⟩ := Matcher.splitLast?_eq_some_iff.1 hlast
  have hscoped : ∀ l s, Matcher.test (.scoped before after) ctx (.scopedText l s d) =
      .ok (l.accepts before && s.accepts after) := fun l s => by simp [Matcher.test, Matcher.split?]
  have hplain : ∀ l s, Matcher.test (.string text) ctx (.scopedText l s d) =
      .ok (l.accepts before' && s.accepts after') := fun l s => by simp [Matcher.test, Matcher.split?, hlast]
  have hcount : text.toList.count d = 1 ↔ d ∉ after.toList := by
    rw [htext, List.count_append, List.count_eq_zero.2 hbefore, List.count_cons_self, ← List.count_eq_zero]
    omega
  refine ⟨⟨before, after, htext, hbefore, hscoped⟩, ⟨before', after', htext', hafter', hplain⟩, ?_⟩
  rw [hcount]
  constructor
  · intro hsame
    have hexact := hsame (.exact before) (.exact after)
    rw [hscoped, hplain, TextMatch.exact_accepts_iff.2 rfl, TextMatch.exact_accepts_iff.2 rfl] at hexact
    -- what is behind the last delimiter is what is behind the first one
    have haccepts := (Bool.and_eq_true _ _).mp (Except.ok.inj hexact)
    rwa [TextMatch.exact_accepts_iff.1 haccepts.2] at hafter'
  · intro hafter l s
    have hsame := Matcher.splitLast?_eq_some_iff.2 ⟨htext, hafter⟩
    rw [hlast] at hsame
    cases hsame
    rw [hscoped, hplain]

/-! A text in which the delimiter stands twice. -/

namespace Nested

def input : DefinitionInput where
  id := "affiliation"
  request := { principal := "alice" }
  values := [.string "staff@lab@example.org"]
  attributes := .empty

def ctx : Filter.Context := ⟨{ principal := "alice" }, .empty⟩

/-- The value has the scope `lab@example.org`, but no matcher finds this scope in the text. -/
theorem scopes_part_ways :
    Definition.prescoped '@' input = .ok [.scoped "staff" "lab@example.org"] ∧
      Matcher.test (.scoped "staff" "lab@example.org") ctx (.scopedText (.exact "staff") (.exact "lab@example.org") '@') =
        .ok true ∧
      Matcher.test (.string "staff@lab@example.org") ctx (.scopedText (.exact "staff") (.exact "lab@example.org") '@') =
        .ok false := by
  decide

theorem scope_is_where_delimiter_is_single_of_nested :
    Definition.prescoped '@' input = .ok [.scoped "staff" "lab@example.org"] ∧
      ¬ ∀ l s, Matcher.test (.string "staff@lab@example.org") ctx (.scopedText l s '@') =
        Matcher.test (.scoped "staff" "lab@example.org") ctx (.scopedText l s '@') := by
  have h : Definition.prescoped '@' input = .ok [.scoped "staff" "lab@example.org"] := by decide
  refine ⟨h, ?_⟩
  rw [(scope_is_where_delimiter_is_single '@' _ _ input rfl h ctx).2.2]
  decide

end Nested

end AttributeRelease
