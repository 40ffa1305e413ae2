import AttributeRelease.Definition.Template
import AttributeRelease.Proofs.Definition.Scopes

/-!
What templates say and what comes of them. Only the text itself tells where its places are: each begins with the first
`$` before an opening brace behind the place before it, and ends with the first closing brace after that. A text is read
exactly if every place that is opened is closed and names a source. What was read is written as it stood there, and each
row is the text with a value in every place, which nobody looks at again.
-/

namespace AttributeRelease

namespace Template

/-- What a place begins with. -/
def opening : List Char := ['$', '\x7b']

/-- What a place ends with. -/
abbrev closing : Char := '\x7d'

/-- No place is opened in a text. -/
def Plain (text : List Char) : Prop := ¬ opening <:+: text

/-- `after` stands behind an opening of `text` that is in no place opened before. -/
inductive Opened : (text after : List Char) → Prop
  | first {before after : List Char} (hbefore : Plain (before ++ ['$'])) : Opened (before ++ opening ++ after) after
  | later {before name rest after : List Char} (hbefore : Plain (before ++ ['$'])) (hname : closing ∉ name)
    (hrest : Opened rest after) : Opened (before ++ opening ++ name ++ closing :: rest) after

/-- What stands behind an opening begins with the name of a source and the end of the place. -/
def Closes (sources : List String) (after : List Char) : Prop :=
  ∃ name rest, after = name ++ closing :: rest ∧ closing ∉ name ∧ String.ofList name ∈ sources

/-- `out` is `text` with something in the place of every place; `plain` is what becomes of the text between them. -/
inductive Replaced {α : Type} (plain : List Char → List α) (place : String → List α → Prop) :
    (text : List Char) → (out : List α) → Prop
  | plain {text : List Char} (h : Plain text) : Replaced plain place text (plain text)
  | place {before name rest : List Char} {piece out : List α} (hbefore : Plain (before ++ ['$']))
    (hname : closing ∉ name) (hpiece : place (String.ofList name) piece) (hrest : Replaced plain place rest out) :
    Replaced plain place (before ++ opening ++ name ++ closing :: rest) (plain before ++ piece ++ out)

/-- The segments of a text whose places all name a source. -/
def Parts (sources : List String) : List Char → List Segment → Prop :=
  Replaced Segment.ofText fun name piece => name ∈ sources ∧ piece = [.source name]

/-- The text with a value in every place, the one at a position of the source that is named there. -/
def Filled (attributes : AttributeMap) (position : Nat) (text row : String) : Prop :=
  Replaced id (fun name piece => ∃ v : Value, (column attributes name)[position]? = some v ∧ piece = v.display.toList)
    text.toList row.toList

theorem plain_or_opening (text : List Char) :
    Plain text ∨ ∃ before after, text = before ++ opening ++ after ∧ Plain (before ++ ['$']) := by
  induction text with
  | nil => exact .inl (by simp [Plain, opening])
  | cons c rest ih =>
    by_cases hstart : opening <+: c :: rest
    · obtain ⟨after, hafter⟩ := hstart
      exact .inr ⟨[], after, hafter.symm, by simp [Plain, opening, List.infix_cons_iff]⟩
    · rcases ih with hplain | ⟨before, after, rfl, hbefore⟩
      · exact .inl fun h => (List.infix_cons_iff.1 h).elim hstart hplain
      · refine .inr ⟨c :: before, after, rfl, fun h => ?_⟩
        rcases List.infix_cons_iff.1 h with h | h
        · -- an opening at the front would be one of the whole text
          refine hstart (h.trans ⟨'\x7b' :: after, ?_⟩)
          simp [opening]
        · exact hbefore h

theorem plain_of_infix {text text' : List Char} (h : Plain text) (hwithin : text' <:+: text) : Plain text' :=
  fun hopening => h (hopening.trans hwithin)

theorem not_plain_opening (before after : List Char) : ¬ Plain (before ++ opening ++ after) :=
  fun h => h ⟨before, after, rfl⟩

/-- In front of an opening there is none if nothing is opened up to its `$`. -/
theorem eq_nil_of_plain {between after after' : List Char} (h : Plain (between ++ ['$']))
    (heq : opening ++ after = between ++ (opening ++ after')) : between = [] := by
  match between with
  | [] => rfl
  | [c] => simp [opening] at heq
  | c :: d :: rest =>
    obtain ⟨rfl, rfl, -⟩ : '$' = c ∧ '\x7b' = d ∧ after = rest ++ (opening ++ after') := by simpa [opening] using heq
    exact absurd ⟨[], rest ++ ['$'], rfl⟩ h

/-- The first opening of a text is the only one that nothing is opened in front of. -/
theorem opening_inj {before before' after after' : List Char} (h : Plain (before ++ ['$']))
    (h' : Plain (before' ++ ['$'])) (heq : before ++ opening ++ after = before' ++ opening ++ after') :
    before = before' ∧ after = after' := by
  have hlater : ∀ {front between : List Char}, Plain (front ++ between ++ ['$']) → Plain (between ++ ['$']) :=
    fun {front _} hplain => plain_of_infix hplain ⟨front, [], by simp⟩
  rw [List.append_assoc, List.append_assoc] at heq
  rcases List.append_eq_append_iff.1 heq with ⟨between, rfl, htail⟩ | ⟨between, rfl, htail⟩
  · obtain rfl := eq_nil_of_plain (hlater h') htail
    exact ⟨(List.append_nil _).symm, List.append_cancel_left htail⟩
  · obtain rfl := eq_nil_of_plain (hlater h) htail
    exact ⟨List.append_nil _, (List.append_cancel_left htail).symm⟩

theorem name_inj {name name' rest rest' : List Char} (h : closing ∉ name) (h' : closing ∉ name')
    (heq : name ++ closing :: rest = name' ++ closing :: rest') : name = name' ∧ rest = rest' := by
  obtain ⟨hname, hrest⟩ := takeWhile_dropWhile_iff.2 ⟨heq, h'⟩
  obtain ⟨hname', hrest'⟩ := takeWhile_dropWhile_iff.2 ⟨rfl, h⟩
  exact ⟨hname'.symm.trans hname, (List.cons.inj (hrest'.symm.trans hrest)).2⟩

/-- A text is plain, or its first place is not closed, or it goes on behind its first place. -/
theorem places_induction {P : List Char → Prop} (plain : ∀ text, Plain text → P text)
    (unclosed : ∀ before after, Plain (before ++ ['$']) → closing ∉ after → P (before ++ opening ++ after))
    (place : ∀ before name rest, Plain (before ++ ['$']) → closing ∉ name → P rest →
      P (before ++ opening ++ name ++ closing :: rest)) (text : List Char) : P text := by
  rcases plain_or_opening text with h | ⟨before, after, htext, hbefore⟩
  · exact plain text h
  · by_cases hclosed : closing ∈ after
    · obtain ⟨name, rest, hafter, hname⟩ := List.eq_append_cons_of_mem hclosed
      rw [hafter, ← List.append_assoc] at htext
      have hlt : rest.length < text.length := by simp [htext]; omega
      rw [htext]
      exact place before name rest hbefore hname (places_induction plain unclosed place rest)
    · rw [htext]
      exact unclosed before after hbefore hclosed
termination_by text.length

variable {sources : List String}

theorem read_plain {text rest : List Char} (h : Plain (text.reverse ++ rest)) :
    read sources text none rest = .ok (Segment.ofText (text.reverse ++ rest)) := by
  induction rest generalizing text with
  | nil => simp [read]
  | cons c rest ih =>
    have hopens : ¬ (c = '\x7b' ∧ text.head? = some '$') := by
      rintro ⟨rfl, htext⟩
      obtain ⟨before, rfl⟩ := List.head?_eq_some_iff.1 htext
      exact h ⟨before.reverse, rest, by simp [opening]⟩
    rw [read, if_neg hopens, ih (by simpa using h)]
    simp

theorem read_opening {text before : List Char} (h : Plain (text.reverse ++ before ++ ['$'])) (after : List Char) :
    read sources text none (before ++ opening ++ after) =
      (read sources [] (some []) after).map (Segment.ofText (text.reverse ++ before) ++ ·) := by
  induction before generalizing text with
  | nil =>
    rw [opening, List.nil_append, List.cons_append, List.singleton_append, read, if_neg (by simp), read,
      if_pos (by simp)]
    cases read sources [] (some []) after <;> simp [Except.map, bind, Except.bind, pure, Except.pure]
  | cons c before ih =>
    have hopens : ¬ (c = '\x7b' ∧ text.head? = some '$') := by
      rintro ⟨rfl, htext⟩
      obtain ⟨front, rfl⟩ := List.head?_eq_some_iff.1 htext
      exact h ⟨front.reverse, before ++ ['$'], by simp [opening]⟩
    rw [List.cons_append, List.cons_append, read, if_neg hopens, ih (by simpa using h)]
    simp

theorem read_name {text seen name rest : List Char} (hname : closing ∉ name) :
    read sources text (some seen) (name ++ closing :: rest) =
      if String.ofList (seen.reverse ++ name) ∈ sources then
        (read sources [] none rest).map (.source (String.ofList (seen.reverse ++ name)) :: ·)
      else .error (.unknownSource (String.ofList (seen.reverse ++ name))) := by
  induction name generalizing seen with
  | nil =>
    rw [List.nil_append, List.append_nil, read, if_pos rfl]
    cases read sources [] none rest <;> rfl
  | cons c name ih =>
    rw [List.mem_cons, not_or] at hname
    rw [List.cons_append, read, if_neg (Ne.symm hname.1), ih hname.2]
    simp

theorem read_unclosed {text seen rest : List Char} (h : closing ∉ rest) :
    read sources text (some seen) rest = .error .unterminated := by
  induction rest generalizing seen with
  | nil => rfl
  | cons c rest ih =>
    rw [List.mem_cons, not_or] at h
    rw [read, if_neg (Ne.symm h.1), ih h.2]

theorem closes_iff {name rest : List Char} (hname : closing ∉ name) :
    Closes sources (name ++ closing :: rest) ↔ String.ofList name ∈ sources := by
  constructor
  · rintro ⟨name', rest', heq, hname', hmem⟩
    rwa [(name_inj hname hname' heq).1]
  · exact fun hmem => ⟨name, rest, rfl, hname, hmem⟩

/-- In a text that is read every opening is closed. -/
theorem closes_of_read {text after : List Char} {segments : List Segment} (h : Opened text after)
    (hread : read sources [] none text = .ok segments) : Closes sources after := by
  induction h generalizing segments with
  | @first before after hbefore =>
    rw [read_opening (by simpa using hbefore)] at hread
    obtain ⟨_, hafter, -⟩ := of_map_ok hread
    by_cases hclosed : closing ∈ after
    · obtain ⟨name, rest, rfl, hname⟩ := List.eq_append_cons_of_mem hclosed
      rw [read_name hname] at hafter
      rw [closes_iff hname]
      by_contra hmem
      rw [List.reverse_nil, List.nil_append, if_neg hmem] at hafter
      cases hafter
    · rw [read_unclosed hclosed] at hafter
      cases hafter
  | later hbefore hname _ ih =>
    rw [List.append_assoc, read_opening (by simpa using hbefore), read_name hname] at hread
    obtain ⟨_, hname, -⟩ := of_map_ok hread
    split at hname
    · obtain ⟨_, hrest, -⟩ := of_map_ok hname
      exact ih hrest
    · cases hname

/-- What is read of a text in which every opening is closed. -/
theorem read_of_closes {text : List Char} (h : ∀ after, Opened text after → Closes sources after) :
    ∃ segments, read sources [] none text = .ok segments ∧ Parts sources text segments := by
  induction text using places_induction with
  | plain text hplain => exact ⟨_, read_plain (by simpa using hplain), .plain hplain⟩
  | unclosed before after hbefore hafter =>
    obtain ⟨name, rest, rfl, -⟩ := h after (.first hbefore)
    exact absurd (List.mem_append_right _ List.mem_cons_self) hafter
  | place before name rest hbefore hname ih =>
    have hmem : String.ofList name ∈ sources := by
      have hfirst := h (name ++ closing :: rest) (by rw [List.append_assoc]; exact .first hbefore)
      exact (closes_iff hname).1 hfirst
    obtain ⟨segments, hread, hsegments⟩ := ih fun after hafter => h after (.later hbefore hname hafter)
    refine ⟨_, ?_, .place hbefore hname ⟨hmem, rfl⟩ hsegments⟩
    rw [List.append_assoc, read_opening (by simpa using hbefore), read_name hname, List.reverse_nil, List.nil_append,
      List.nil_append, if_pos hmem, hread]
    simp [Except.map]

theorem ofText?_eq_ok_iff {text : String} {t : Template} : ofText? text sources = .ok t ↔
    sources ≠ [] ∧ t.sources = sources ∧ read sources [] none text.toList = .ok t.segments := by
  rw [ofText?]
  split
  · next hempty => simp [List.isEmpty_iff.1 hempty]
  · next hsources =>
    have hne : sources ≠ [] := fun heq => hsources (List.isEmpty_iff.2 heq)
    cases hread : read sources [] none text.toList with
    | ok segments =>
      simp only [Except.ok.injEq]
      constructor
      · rintro rfl
        exact ⟨hne, rfl, rfl⟩
      · rintro ⟨-, rfl, rfl⟩
        rfl
    | error e => cases e <;> simp

/-! ### What is replaced -/

section Replaced

variable {α β : Type} {plain : List Char → List α} {place : String → List α → Prop} {text : List Char} {out : List α}

/-- What becomes of the pieces becomes of the whole. -/
theorem Replaced.flatMap (h : Replaced plain place text out) {f : α → List β} {plain' : List Char → List β}
    {place' : String → List β → Prop} (hplain : ∀ chars, (plain chars).flatMap f = plain' chars)
    (hplace : ∀ name piece, place name piece → place' name (piece.flatMap f)) :
    Replaced plain' place' text (out.flatMap f) := by
  induction h with
  | plain h =>
    rw [hplain]
    exact .plain h
  | place hbefore hname hpiece _ ih =>
    rw [List.flatMap_append, List.flatMap_append, hplain]
    exact .place hbefore hname (hplace _ _ hpiece) ih

/-- There is one way to replace all places if there is one for each of them. -/
theorem Replaced.unique (hplace : ∀ {name piece piece'}, place name piece → place name piece' → piece = piece')
    {out' : List α} (h : Replaced plain place text out) (h' : Replaced plain place text out') : out = out' := by
  induction h generalizing out' with
  | @plain text h =>
    cases h' with
    | plain => rfl
    | place => exact absurd h (by simpa only [List.append_assoc] using not_plain_opening _ _)
  | @place before name rest piece out hbefore hname hpiece _ ih =>
    generalize htext : before ++ opening ++ name ++ closing :: rest = text at h'
    cases h' with
    | plain h => exact absurd (htext ▸ h) (by simpa only [List.append_assoc] using not_plain_opening _ _)
    | place hbefore' hname' hpiece' hrest' =>
      rw [List.append_assoc, List.append_assoc (_ ++ opening)] at htext
      obtain ⟨rfl, hafter⟩ := opening_inj hbefore hbefore' htext
      obtain ⟨rfl, rfl⟩ := name_inj hname hname' hafter
      rw [hplace hpiece hpiece', ih hrest']

/-- A text in which each place is replaced by itself remains as it is. -/
theorem Replaced.eq_self {out : List Char}
    (h : Replaced id (fun name piece => piece = (Segment.source name).write) text out) : out = text := by
  induction h with
  | plain => rfl
  | place _ _ hpiece _ ih =>
    rw [hpiece, ih]
    simp [Segment.write, opening]

end Replaced

theorem parts_of_read {text : List Char} {segments : List Segment} (h : read sources [] none text = .ok segments) :
    Parts sources text segments := by
  obtain ⟨segments', hread, hparts⟩ := read_of_closes fun after hafter => closes_of_read hafter h
  rw [h] at hread
  obtain rfl := Except.ok.inj hread
  exact hparts

theorem flatMap_ofText {f : Segment → List Char} (h : ∀ chars, f (.text chars) = chars) (chars : List Char) :
    (Segment.ofText chars).flatMap f = chars := by
  rw [Segment.ofText]
  split
  · next hempty => exact (List.isEmpty_iff.1 hempty).symm
  · rw [List.flatMap_singleton, h]

theorem Parts.write {text : List Char} {segments : List Segment} (h : Parts sources text segments) :
    segments.flatMap Segment.write = text := by
  refine (h.flatMap (fun chars => ?_) ?_).eq_self
  · exact flatMap_ofText (fun _ => rfl) chars
  · rintro name _ ⟨-, rfl⟩
    exact List.flatMap_singleton _ _

/-- The sources have the same number of values. -/
def Aligned (sources : List String) (attributes : AttributeMap) : Prop :=
  ∀ s ∈ sources, ∀ s' ∈ sources, (column attributes s).length = (column attributes s').length

theorem all_rowCount_iff (t : Template) (attributes : AttributeMap) :
    (t.sources.all fun s => (column attributes s).length = t.rowCount attributes) = true ↔
      Aligned t.sources attributes := by
  rw [rowCount, Aligned, List.all_eq_true]
  cases t.sources with
  | nil => simp
  | cons first rest =>
    simp only [List.head?_cons, Option.map_some, Option.getD_some]
    constructor
    · exact fun h s hs s' hs' => (of_decide_eq_true (h s hs)).trans (of_decide_eq_true (h s' hs')).symm
    · exact fun h s hs => decide_eq_true (h s hs first List.mem_cons_self)

theorem length_column (t : Template) {attributes : AttributeMap} (h : Aligned t.sources attributes) {s : String}
    (hs : s ∈ t.sources) : (column attributes s).length = t.rowCount attributes :=
  of_decide_eq_true (List.all_eq_true.1 ((t.all_rowCount_iff attributes).2 h) s hs)

/-- A row is the text with a value in every place. -/
theorem renderRow_filled (t : Template) {attributes : AttributeMap} {text : String}
    (hparts : Parts t.sources text.toList t.segments) (h : Aligned t.sources attributes) {row : Nat}
    (hrow : row < t.rowCount attributes) : Filled attributes row text (t.renderRow attributes row) := by
  rw [Filled, renderRow, String.toList_ofList]
  refine hparts.flatMap (fun chars => ?_) ?_
  · exact flatMap_ofText (fun _ => rfl) chars
  · rintro name _ ⟨hname, rfl⟩
    have hlt : row < (column attributes name).length := by rwa [t.length_column h hname]
    refine ⟨_, List.getElem?_eq_getElem hlt, ?_⟩
    simp [renderSegment, List.getElem?_eq_getElem hlt]

theorem Filled.unique {attributes : AttributeMap} {position : Nat} {text row row' : String}
    (h : Filled attributes position text row) (h' : Filled attributes position text row') : row = row' := by
  refine String.toList_inj.1 (Replaced.unique ?_ h h')
  rintro name _ _ ⟨v, hv, rfl⟩ ⟨v', hv', rfl⟩
  rw [hv] at hv'
  rw [Option.some.inj hv']

theorem definition_of_aligned (t : Template) {input : DefinitionInput} (h : Aligned t.sources input.attributes) :
    t.definition input =
      .ok (((List.range (t.rowCount input.attributes)).map (t.renderRow input.attributes)).map .string) := by
  rw [definition, if_pos ((t.all_rowCount_iff _).2 h), List.map_map]
  rfl

theorem definition_eq_error_iff (t : Template) (input : DefinitionInput) :
    (∃ counts, t.definition input = .error (.mismatchedCounts counts)) ↔ ¬ Aligned t.sources input.attributes := by
  constructor
  · rintro ⟨counts, hcounts⟩ h
    rw [t.definition_of_aligned h] at hcounts
    cases hcounts
  · intro h
    rw [definition, if_neg fun hall => h ((t.all_rowCount_iff _).1 hall)]
    exact ⟨_, rfl⟩

/-- **Templates say what they show.** There must be a source, and every opening must be closed behind the name of a
source; a text is then read as its places and what stands between them, which is what it is written as. It gives no rows
if two sources have different numbers of values. Otherwise it gives one for each position in the sources: the only text
that comes of the template with the value at that position, which is always there, in every place. -/
theorem templates_render (text : String) (sources : List String) :
    ((∃ t, ofText? text sources = .ok t) ↔
      sources ≠ [] ∧ ∀ after, Opened text.toList after → Closes sources after) ∧
    ∀ t, ofText? text sources = .ok t →
      t.sources = sources ∧ Parts sources text.toList t.segments ∧ t.segments.flatMap Segment.write = text.toList ∧
      ∀ input : DefinitionInput,
        ((∃ counts, t.definition input = .error (.mismatchedCounts counts)) ↔
          ∃ s ∈ sources, ∃ s' ∈ sources,
            (column input.attributes s).length ≠ (column input.attributes s').length) ∧
        (Aligned sources input.attributes →
          ∃ rows : List String, t.definition input = .ok (rows.map .string) ∧
            (∀ s ∈ sources, (column input.attributes s).length = rows.length) ∧
            ∀ i row, rows[i]? = some row → ∀ row', Filled input.attributes i text row' ↔ row' = row) := by
  refine ⟨⟨?_, ?_⟩, ?_⟩
  · rintro ⟨t, ht⟩
    obtain ⟨hne, -, hread⟩ := ofText?_eq_ok_iff.1 ht
    exact ⟨hne, fun after hafter => closes_of_read hafter hread⟩
  · rintro ⟨hne, h⟩
    obtain ⟨segments, hread, -⟩ := read_of_closes h
    exact ⟨⟨sources, segments⟩, ofText?_eq_ok_iff.2 ⟨hne, rfl, hread⟩⟩
  · intro t ht
    obtain ⟨-, rfl, hread⟩ := ofText?_eq_ok_iff.1 ht
    have hparts := parts_of_read hread
    refine ⟨rfl, hparts, hparts.write, fun input => ⟨?_, fun h => ⟨_, t.definition_of_aligned h, ?_, ?_⟩⟩⟩
    · simp only [t.definition_eq_error_iff, Aligned, Classical.not_forall, exists_prop, ne_eq]
    · intro s hs
      rw [t.length_column h hs, List.length_map, List.length_range]
    · intro i row hrow row'
      rw [List.getElem?_map, Option.map_eq_some_iff] at hrow
      obtain ⟨i', hi, rfl⟩ := hrow
      obtain ⟨hlt, rfl⟩ := List.getElem?_eq_some_iff.1 hi
      rw [List.length_range] at hlt
      rw [List.getElem_range]
      have hfilled := t.renderRow_filled hparts h hlt
      exact ⟨fun h' => h'.unique hfilled, fun heq => heq ▸ hfilled⟩

-- a `$` before an opening and a brace behind a place are text
example : ofText? "$$\x7buid\x7d\x7d@$\x7bhost\x7d" ["uid", "host"] =
    .ok ⟨["uid", "host"], [.text ['$'], .source "uid", .text ['\x7d', '@'], .source "host"]⟩ := rfl

end Template

end AttributeRelease
