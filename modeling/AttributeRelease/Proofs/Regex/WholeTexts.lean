import AttributeRelease.Definition.Extract
import AttributeRelease.Definition.Mapping
import AttributeRelease.Proofs.Regex.Reading
import AttributeRelease.Proofs.Regex.Threads
import AttributeRelease.Regex.Whole

/-!
Patterns for whole texts. The text of a pattern is put between `^(?:` and `)$` before it is read. If it is a pattern by
itself, this ties that pattern to both ends, and just the texts that it matches as a whole are recognised. If it is
none, its parentheses may close the group around it: what is recognised then need not be matched as a whole.
-/

namespace AttributeRelease

theorem WholeRegex.read_eq (explain : String → String) {text : String} {r : Regex} (h : Regex.whole? text = some r) :
    read explain text = .ok ⟨text, r, h⟩ := by
  have hsome : ofText? text = some ⟨text, r, h⟩ := by
    rw [ofText?]
    split
    · next r' h' =>
      obtain rfl := Option.some.inj (h.symm.trans h')
      rfl
    · next h' => cases h.symm.trans h'
  rw [read, hsome]

namespace Regex

open Pattern (concat)

namespace Reader

variable {n : Nat} {read : List Part} {cs : List Char}

theorem parts_textStart :
    parts (n + 1) read { rest := '^' :: cs } = parts n (⟨.anchor .textStart, 0, false⟩ :: read) { rest := cs } :=
  rfl

theorem parts_group :
    parts (n + 1) read { rest := '(' :: '?' :: ':' :: cs } =
      (closed n {} >>= fun inside => parts n (⟨inside.pattern, 1 + inside.depth, false⟩ :: read)) { rest := cs } :=
  rfl

theorem parts_textEnd (opened : Nat) (names : List (String × Nat)) :
    parts (n + 2) read { rest := ['$'], opened, names } =
      some (sequence (⟨.anchor .textEnd, 0, false⟩ :: read).reverse, { rest := [], opened, names }) :=
  rfl

/-- What is read to its end by itself is what a closed group around it holds, unless a comment swallows the end. -/
theorem closed_ending {m : Nat} (hnm : n ≤ m) {inside : List Part} {s : State}
    (h : alternatives n { rest := cs } = some (inside, s)) (hs : s.rest = []) (outer : Flags) :
    closed (m + 1) outer { rest := cs ++ ending } = none ∨
      closed (m + 1) outer { rest := cs ++ ending } =
        some (choice inside, { rest := ['$'], flags := outer, opened := s.opened, names := s.names }) := by
  obtain ⟨u, hu, hrest, -, hopened, hnames⟩ :=
    (alternatives_follows hnm).1 { rest := cs } { rest := cs ++ ending } ⟨.append_ending cs, rfl, rfl, rfl⟩ inside s h
  rw [closed, ← hopened, ← hnames]
  rw [hs] at hrest
  obtain ⟨rest, flags, opened, names⟩ := u
  dsimp only at hrest
  cases hrest with
  | nil => exact .inl (Option.bind_eq_none_iff.2 fun _ ha => by cases hu.symm.trans ha; rfl)
  | ending => exact .inr (Option.bind_eq_some_iff.2 ⟨_, hu, rfl⟩)

/-- What is read to its end by itself is, put between `^(?:` and `)$`, what a sequence tied to both ends holds. -/
theorem alternatives_tied {k : Nat} (hnk : n ≤ k + 1) {inside parts : List Part} {s s' : State}
    (h : alternatives n { rest := cs } = some (inside, s)) (hs : s.rest = [])
    (htied : alternatives (k + 5) { rest := '^' :: '(' :: '?' :: ':' :: (cs ++ ending) } = some (parts, s')) :
    parts = [sequence [⟨.anchor .textStart, 0, false⟩, ⟨(choice inside).pattern, 1 + (choice inside).depth, false⟩,
      ⟨.anchor .textEnd, 0, false⟩]] := by
  rw [alternatives] at htied
  obtain ⟨p, _, hp, hend⟩ := of_bind htied
  rw [parts_textStart, parts_group] at hp
  obtain ⟨_, _, hgroup, hp⟩ := of_bind hp
  rcases closed_ending hnk h hs {} with hnone | hsome
  · cases hnone.symm.trans hgroup
  · cases hsome.symm.trans hgroup
    cases (parts_textEnd s.opened s.names).symm.trans hp
    rw [rest_bind_of_nil rfl] at hend
    cases hend
    rfl

end Reader

/-- What the reader made of a text that is a pattern. -/
theorem read_of_ofText? {text : String} {p : Pattern} {names : List (String × Nat)}
    (h : Pattern.ofText? text = some (p, names)) :
    ∃ parts s, Reader.alternatives (3 * text.toList.length + 3) { rest := text.toList } = some (parts, s) ∧
      s.rest = [] ∧ p = (Reader.choice parts).pattern := by
  obtain ⟨⟨parts, s⟩, hread, hend⟩ := Option.bind_eq_some_iff.1 h
  dsimp only at hend
  split at hend
  · next hrest =>
    cases hend
    exact ⟨parts, s, hread, List.isEmpty_iff.1 hrest.1, rfl⟩
  · cases hend

/-- A pattern whose text is read between `^(?:` and `)$` is tied to both ends, if the text is a pattern by itself. -/
theorem ofText?_wholeText {text : String} {p q : Pattern} {names names' : List (String × Nat)}
    (hp : Pattern.ofText? text = some (p, names)) (hq : Pattern.ofText? (wholeText text) = some (q, names')) :
    q = concat [.anchor .textStart, p, .anchor .textEnd] := by
  obtain ⟨inside, s, hread, hs, rfl⟩ := read_of_ofText? hp
  obtain ⟨parts, s', htied, -, rfl⟩ := read_of_ofText? hq
  have htext : (wholeText text).toList = '^' :: '(' :: '?' :: ':' :: (text.toList ++ Reader.ending) := by
    simp [wholeText, Reader.ending]
  have hsteps : 3 * (wholeText text).toList.length + 3 = 3 * text.toList.length + 16 + 5 := by
    simp [htext, Reader.ending]
    omega
  rw [hsteps, htext] at htied
  rw [Reader.alternatives_tied (by omega) hread hs htied]
  rfl

/-! ### What is recognised -/

/-- A pattern matches a text from its first place to its last. -/
def Pattern.MatchesWhole (p : Pattern) (text : String) : Prop := p.Matches text.toList 0 text.toList.length

theorem isMatch_iff {r : Regex} {p : Pattern} (h : r.pattern = concat [.anchor .textStart, p, .anchor .textEnd])
    (value : String) : r.isMatch value = true ↔ p.MatchesWhole value := by
  rw [isMatch, h, isSome_find?_iff]
  constructor
  · rintro ⟨i, hi, j, hmatch⟩
    exact ((Pattern.matches_tied p hi).1 hmatch).2.2
  · intro hmatch
    exact ⟨0, Nat.zero_le _, _, (Pattern.matches_tied p (Nat.zero_le _)).2 ⟨rfl, rfl, hmatch⟩⟩

theorem matchesWhole_tied {p : Pattern} {value : String} :
    (concat [.anchor .textStart, p, .anchor .textEnd]).MatchesWhole value ↔ p.MatchesWhole value :=
  (Pattern.matches_tied p (Nat.zero_le _)).trans (by simp [Pattern.MatchesWhole])

theorem isSome_captures? {r : Regex} {value : String} : (r.captures? value).isSome = r.isMatch value :=
  Option.isSome_map

theorem whole?_eq_some_iff {text : String} {r : Regex} :
    whole? text = some r ↔ Pattern.ofText? (wholeText text) = some (r.pattern, r.names) ∧ r.pattern.fits = true := by
  constructor
  · intro h
    obtain ⟨⟨p, names⟩, hp, hr⟩ := Option.bind_eq_some_iff.1 h
    dsimp only at hr
    split at hr
    · next hfits =>
      cases hr
      exact ⟨hp, hfits⟩
    · cases hr
  · rintro ⟨hp, hfits⟩
    exact Option.bind_eq_some_iff.2 ⟨_, hp, if_pos hfits⟩

/-- A value that is not matched is left out. -/
theorem extract_drop {r : Regex} {input : DefinitionInput} {before after : List Value} {v : Value}
    (hvalues : input.values = before ++ v :: after) (hv : ∀ value, v.plain? = some value → r.isMatch value = false) :
    Definition.extract r input = Definition.extract r { input with values := before ++ after } := by
  have hnone (value : String) (hvalue : v.plain? = some value) : r.captures? value = none := by
    rw [← Option.not_isSome_iff_eq_none, isSome_captures?, hv value hvalue]
    decide
  simp only [Definition.extract, hvalues, List.filterMap_append, List.filterMap_cons]
  cases hplain : v.plain? with
  | none => rfl
  | some value => simp [hnone value hplain]

/--
By way of a text that is a pattern by itself, whole texts are recognised: by a regular expression for candidates, by a
source of a mapping, and by the definition that takes a part out of each value.
-/
theorem recognises_whole_texts {text : String} {p : Pattern} {names : List (String × Nat)}
    (hp : Pattern.ofText? text = some (p, names)) {r : Regex} (hr : whole? text = some r) (explain : String → String) :
    (∀ w, WholeRegex.read explain text = .ok w → ∀ candidate,
      w.accepts candidate = true ↔ r.pattern.MatchesWhole candidate) ∧
    (∀ source, Mapping.Source.pattern? explain text = .ok source → ∀ value result,
      (source.map? value result).isSome ↔ r.pattern.MatchesWhole value) ∧
    (∀ d, Definition.extract? explain text = .ok d → ∀ input before v after, input.values = before ++ v :: after →
      (∀ value, v.plain? = some value → ¬ r.pattern.MatchesWhole value) →
      d input = d { input with values := before ++ after }) ∧
    ∀ value, r.pattern.MatchesWhole value ↔ p.MatchesWhole value := by
  have htied := ofText?_wholeText hp (whole?_eq_some_iff.1 hr).1
  have hwhole (value : String) : r.pattern.MatchesWhole value ↔ p.MatchesWhole value := by
    rw [htied, matchesWhole_tied]
  have hmatch (value : String) : r.isMatch value = true ↔ r.pattern.MatchesWhole value :=
    (isMatch_iff htied value).trans (hwhole value).symm
  refine ⟨fun w hw candidate => ?_, fun source hsource value result => ?_,
    fun d hd input before v after hvalues hv => ?_, hwhole⟩
  · rw [WholeRegex.read_eq explain hr] at hw
    cases hw
    exact hmatch candidate
  · rw [Mapping.Source.pattern?, hr] at hsource
    cases hsource
    rw [← hmatch, ← isSome_captures?, Mapping.Source.map?, Option.isSome_map]
  · rw [Definition.extract?, hr] at hd
    dsimp only at hd
    split at hd
    · cases hd
    · cases hd
      refine extract_drop hvalues fun value hvalue => ?_
      rw [← Bool.not_eq_true, hmatch]
      exact hv value hvalue

namespace Lettered

/-- The pattern of `(a)b`. -/
def pattern : Pattern := .seq (.group 1 (.literal ['a'])) (.literal ['b'])

theorem read : Pattern.ofText? "(a)b" = some (pattern, []) := by decide +kernel

/-- The regular expression for whole texts of `(a)b`. -/
def regex : Regex where
  pattern := .seq (.anchor .textStart) (.seq (.group 1 (.literal ['a'])) (.seq (.literal ['b']) (.anchor .textEnd)))
  names := []

theorem whole : whole? "(a)b" = some regex := by
  refine whole?_eq_some_iff.2 ⟨by decide +kernel, ?_⟩
  simp only [regex, Pattern.fits, Automaton.fits, Automaton.addWhole, Automaton.add]
  decide +kernel

theorem recognises_whole_texts_of_lettered :
    Pattern.ofText? "(a)b" = some (pattern, []) ∧ whole? "(a)b" = some regex ∧
      ∀ explain w, WholeRegex.read explain "(a)b" = .ok w → ∀ candidate,
        w.accepts candidate = true ↔ regex.pattern.MatchesWhole candidate :=
  ⟨read, whole, fun explain => (recognises_whole_texts read whole explain).1⟩

end Lettered

namespace Unbalanced

/-- What is read from `a)|(b` for whole texts: an `a` at the beginning or a `b` at the end. -/
def regex : Regex where
  pattern := .alt (.seq (.anchor .textStart) (.literal ['a'])) (.seq (.group 1 (.literal ['b'])) (.anchor .textEnd))
  names := []

theorem whole : whole? "a)|(b" = some regex := by
  refine whole?_eq_some_iff.2 ⟨by decide +kernel, ?_⟩
  simp only [regex, Pattern.fits, Automaton.fits, Automaton.addWhole, Automaton.add, Automaton.addFurther]
  decide +kernel

def input : DefinitionInput where
  id := "letter"
  request := { principal := "alice" }
  values := [.string "xb"]
  attributes := .empty

theorem not_matchesWhole : ¬ regex.pattern.MatchesWhole "xb" := by
  simp [regex, Pattern.MatchesWhole, Pattern.Matches, Anchor.HoldsAt, Anchor.holds]

/-- A text whose parentheses close the group around it is accepted, and then recognises what is no whole text. -/
theorem accepts_part (explain : String → String) :
    Pattern.ofText? "a)|(b" = none ∧ ¬ regex.pattern.MatchesWhole "xb" ∧
      (∃ w, WholeRegex.read explain "a)|(b" = .ok w ∧ w.regex = regex ∧ w.accepts "xb" = true) ∧
      (∃ source, Mapping.Source.pattern? explain "a)|(b" = .ok source ∧ source.map? "xb" "$1" = some "b") ∧
      ∃ d, Definition.extract? explain "a)|(b" = .ok d ∧ d input = .ok [.string "b"] := by
  refine ⟨by decide +kernel, not_matchesWhole, ⟨_, WholeRegex.read_eq explain whole, rfl, by decide +kernel⟩,
    ⟨.pattern regex, ?_, by decide +kernel⟩, Definition.extract regex, ?_, by decide +kernel⟩
  · rw [Mapping.Source.pattern?, whole]
  · rw [Definition.extract?, whole]
    rfl

end Unbalanced

end Regex

end AttributeRelease
