import AttributeRelease.Definition.Mapping
import AttributeRelease.Proofs.Attribute.Merging
import Mathlib.Data.List.Forall2

/-!
What mappings make of values. Every entry with a source that recognises the text of a value gives one result, that of
the first such source, and the value becomes these results in the order of the entries. Only a value that no entry
recognises is left out, replaced or kept. What the values become is put together in their order, without repetitions.
-/

namespace AttributeRelease.Mapping

/-- A source recognises a text: the literal is the same text, or the pattern matches in it. -/
def Source.Recognises (text : String) : Source → Prop
  | .literal m => m.accepts text = true
  | .pattern r => ∃ c, r.captures? text = some c

/-- What a source that recognises a text makes of a result: the same for a literal, for a pattern the result with the
groups of the match in it. -/
inductive Source.Yields (text result : String) : Source → String → Prop
  | literal {m : TextMatch} (h : m.accepts text = true) : Yields text result (.literal m) result
  | pattern {r : Regex} {c : Regex.Captures} (h : r.captures? text = some c) :
    Yields text result (.pattern r) (c.expand result)

/-- Some source of an entry recognises a text. -/
def Entry.Recognises (e : Entry) (text : String) : Prop := ∃ s ∈ e.sources, s.Recognises text

/-- What an entry gives for a text is what its first source makes of it that recognises the text. -/
inductive Entry.Gives (e : Entry) (text out : String) : Prop
  | first {before after : List Source} {s : Source} (hsources : e.sources = before ++ s :: after)
    (hbefore : ∀ s' ∈ before, ¬ s'.Recognises text) (h : s.Yields text e.result out)

/-- What the entries that recognise a text give for it, in their order. -/
inductive Results (text : String) : List Entry → List String → Prop
  | nil : Results text [] []
  | passed {e : Entry} {rest : List Entry} {outs : List String} (h : ¬ e.Recognises text)
    (hrest : Results text rest outs) : Results text (e :: rest) outs
  | given {e : Entry} {rest : List Entry} {out : String} {outs : List String} (h : e.Gives text out)
    (hrest : Results text rest outs) : Results text (e :: rest) (out :: outs)

/-- What a value becomes. -/
inductive Becomes (m : Mapping) (v : Value) : List Value → Prop
  | mapped {results : List String} (hresults : Results v.display m.entries results) (hne : results ≠ []) :
    Becomes m v (results.map .string)
  | dropped (h : ∀ e ∈ m.entries, ¬ e.Recognises v.display) (hunmapped : m.unmapped = .drop) : Becomes m v []
  | replaced {text : String} (h : ∀ e ∈ m.entries, ¬ e.Recognises v.display) (hunmapped : m.unmapped = .replace text) :
    Becomes m v [.string text]
  | kept (h : ∀ e ∈ m.entries, ¬ e.Recognises v.display) (hunmapped : m.unmapped = .keep) : Becomes m v [v]

variable {m : Mapping} {v : Value} {text out : String} {results : List String}

theorem Source.map?_eq_some_iff {s : Source} {result : String} :
    s.map? text result = some out ↔ s.Yields text result out := by
  cases s with
  | literal m =>
    by_cases haccepts : m.accepts text = true
    · rw [map?, if_pos haccepts, Option.some.injEq]
      constructor
      · rintro rfl
        exact .literal haccepts
      · rintro ⟨-⟩
        rfl
    · rw [map?, if_neg haccepts]
      refine ⟨nofun, ?_⟩
      rintro ⟨h⟩
      exact absurd h haccepts
  | pattern r =>
    rw [map?, Option.map_eq_some_iff]
    constructor
    · rintro ⟨c, hc, rfl⟩
      exact .pattern hc
    · intro h
      cases h with
      | pattern hc => exact ⟨_, hc, rfl⟩

theorem Source.exists_yields_iff {s : Source} (result : String) :
    (∃ out, s.Yields text result out) ↔ s.Recognises text := by
  cases s with
  | literal m =>
    constructor
    · rintro ⟨_, ⟨h⟩⟩
      exact h
    · exact fun h => ⟨_, .literal h⟩
  | pattern r =>
    constructor
    · rintro ⟨_, h⟩
      cases h with
      | pattern hc => exact ⟨_, hc⟩
    · rintro ⟨c, hc⟩
      exact ⟨_, .pattern hc⟩

theorem Source.map?_eq_none_iff {s : Source} {result : String} : s.map? text result = none ↔ ¬ s.Recognises text := by
  rw [← exists_yields_iff result, Option.eq_none_iff_forall_ne_some, not_exists]
  simp only [ne_eq, map?_eq_some_iff]

theorem Entry.map?_eq_some_iff {e : Entry} : e.map? text = some out ↔ e.Gives text out := by
  rw [map?, List.findSome?_eq_some_iff]
  constructor
  · rintro ⟨before, s, after, hsources, hs, hbefore⟩
    exact .first hsources (fun s' hs' => Source.map?_eq_none_iff.1 (hbefore s' hs')) (Source.map?_eq_some_iff.1 hs)
  · rintro ⟨hsources, hbefore, hs⟩
    exact ⟨_, _, _, hsources, Source.map?_eq_some_iff.2 hs, fun s' hs' => Source.map?_eq_none_iff.2 (hbefore s' hs')⟩

theorem Entry.map?_eq_none_iff {e : Entry} : e.map? text = none ↔ ¬ e.Recognises text := by
  rw [map?, List.findSome?_eq_none_iff, Recognises, not_exists]
  simp only [Source.map?_eq_none_iff, not_and]

theorem results_iff {entries : List Entry} :
    Results text entries results ↔ entries.filterMap (·.map? text) = results := by
  constructor
  · intro h
    induction h with
    | nil => rfl
    | passed h _ ih =>
      rw [List.filterMap_cons, Entry.map?_eq_none_iff.2 h]
      exact ih
    | given h _ ih =>
      rw [List.filterMap_cons, Entry.map?_eq_some_iff.2 h, ← ih]
  · rintro rfl
    induction entries with
    | nil => exact .nil
    | cons e rest ih =>
      rw [List.filterMap_cons]
      cases he : e.map? text with
      | none => exact .passed (Entry.map?_eq_none_iff.1 he) ih
      | some out => exact .given (Entry.map?_eq_some_iff.1 he) ih

/-- Nothing is given exactly if nothing is recognised. -/
theorem filterMap_map?_eq_nil_iff {entries : List Entry} :
    entries.filterMap (·.map? text) = [] ↔ ∀ e ∈ entries, ¬ e.Recognises text := by
  rw [List.filterMap_eq_nil_iff]
  simp only [Entry.map?_eq_none_iff]

theorem Becomes.contribution_eq {share : List Value} (h : m.Becomes v share) : m.contribution v = share := by
  have hspared : (∀ e ∈ m.entries, ¬ e.Recognises v.display) → m.contribution v = m.unmapped.values v := by
    intro hnone
    rw [contribution, filterMap_map?_eq_nil_iff.2 hnone]
  cases h with
  | @mapped results hresults hne =>
    rw [contribution, results_iff.1 hresults]
    cases results with
    | nil => exact absurd rfl hne
    | cons => rfl
  | dropped h hunmapped | replaced h hunmapped | kept h hunmapped =>
    rw [hspared h, hunmapped]
    rfl

theorem becomes_contribution (m : Mapping) (v : Value) : m.Becomes v (m.contribution v) := by
  rw [contribution]
  split
  · next hnone =>
    rw [filterMap_map?_eq_nil_iff] at hnone
    cases hunmapped : m.unmapped with
    | drop => exact .dropped hnone hunmapped
    | replace text => exact .replaced hnone hunmapped
    | keep => exact .kept hnone hunmapped
  · next results hne => exact .mapped (results_iff.2 rfl) hne

theorem forall₂_becomes_iff {values : List Value} {shares : List (List Value)} :
    List.Forall₂ m.Becomes values shares ↔ values.map m.contribution = shares := by
  have hbecomes : m.Becomes = fun v share => m.contribution v = share := by
    funext v share
    exact propext ⟨Becomes.contribution_eq, fun h => h ▸ m.becomes_contribution v⟩
  rw [hbecomes, ← List.forall₂_map_left_iff (R := Eq), List.forall₂_eq_eq_eq]

theorem definition_eq (m : Mapping) (input : DefinitionInput) :
    m.definition input = .ok (input.values.flatMap m.contribution).eraseDups :=
  congrArg Except.ok (foldl_appendAllNew _ _)

/-- **Every value is accounted for once.** There is exactly one way in which the values become others, and the mapping
gives what they become in their order, each value at its first appearance. A value that some entry recognises becomes
results and nothing else; only one that none recognises is treated as such. -/
theorem values_accounted_for (m : Mapping) (input : DefinitionInput) :
    ∃ shares : List (List Value),
      (∀ shares', List.Forall₂ m.Becomes input.values shares' ↔ shares' = shares) ∧
      m.definition input = .ok shares.flatten.eraseDups ∧ shares.flatten.eraseDups.Nodup ∧
      ∀ v : Value, (∃ results, Results v.display m.entries results ∧ results ≠ []) ↔
        ∃ e ∈ m.entries, e.Recognises v.display := by
  refine ⟨input.values.map m.contribution, fun shares' => forall₂_becomes_iff.trans eq_comm, ?_, nodup_eraseDups _,
    fun v => ?_⟩
  · rw [definition_eq, List.flatMap_def]
  · constructor
    · rintro ⟨results, hresults, hne⟩
      by_contra hnone
      refine hne ((results_iff.1 hresults).symm.trans (filterMap_map?_eq_nil_iff.2 fun e he h => hnone ⟨e, he, h⟩))
    · rintro ⟨e, he, hrecognises⟩
      refine ⟨_, results_iff.2 rfl, fun hnil => ?_⟩
      exact filterMap_map?_eq_nil_iff.1 hnil e he hrecognises

-- a value of two entries, one that is kept with its type, and a result that comes again
example : definition
    { entries := [⟨"member", [.literal (.exact "staff"), .literal (.exact "student")]⟩,
        ⟨"employee", [.literal (.exact "staff")]⟩], unmapped := .keep }
    { id := "role", request := { principal := "alice" }, attributes := .empty,
      values := [.string "staff", .scoped "staff" "example.org", .string "student"] } =
    .ok [.string "member", .string "employee", .scoped "staff" "example.org"] := by decide

end AttributeRelease.Mapping
