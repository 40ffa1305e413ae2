import AttributeRelease.Proofs.Regex.Following

/-!
Reading a pattern that is followed by more. What the reader makes of a pattern that it reads to its end by itself is
what it makes of it there, unless a comment swallows what follows. The reader is taken apart along its functions.
-/

namespace AttributeRelease.Regex.Reader

open Unicode

variable {α : Type}

theorem fold_steady (chars : CharSet) : Steady (fold chars) := by
  refine .flags_bind (fun s => .pure _) fun s u h => ?_
  simp only [h]

theorem negateIf_steady (negated : Bool) (chars : CharSet) : Steady (negateIf negated chars) := by
  rw [negateIf]
  split
  · exact .pure _
  · refine .flags_bind (fun s => ?_) fun s u h => by rw [h]
    split
    · exact .pure _
    · exact .failure

theorem classOfEscape_steady (e : Escape) : Steady (classOfEscape e) := by
  cases e with
  | char | anchor => exact .failure
  | digits | blanks | word => exact .flags_bind (fun s => negateIf_steady _ _) fun s u h => by rw [h]
  | property negated query =>
    refine .flags_bind (fun s => ?_) fun s u h => by rw [h]
    dsimp only
    split
    · exact .failure_bind
    · cases query.class? with
      | none => exact .failure
      | some chars => exact .bind (fold_steady _) fun _ => negateIf_steady _ _

theorem memberChar_steady (e : Escape) : Steady (memberChar e) := by
  cases e with
  | char c byte =>
    rw [memberChar]
    refine .flags_bind (fun s => ?_) fun s u h => by rw [h]
    split
    · exact .pure _
    · exact .failure
  | digits | blanks | word | property | anchor => exact .failure

theorem combine_steady (op : SetOperation) (a b : Nested) : Steady (combine op a b) :=
  .bind (fold_steady _) fun _ => .bind (fold_steady _) fun _ => .pure _

theorem charPattern_steady (c : Char) (byte : Bool) : Steady (charPattern c byte) := by
  refine .flags_bind (fun s => ?_) fun s u h => by rw [h]
  dsimp only
  split
  · exact .failure_bind
  · exact .bind (fold_steady _) fun _ => .pure _

theorem dot_steady : Steady dot := by
  refine .flags_bind (fun s => ?_) fun s u h => by rw [h]
  dsimp only
  split
  · exact .failure_bind
  · exact .pure _

theorem takeWhile_follows {p : Char → Bool} {s u : State} (h : s.Prolonged u)
    (hp : p ')' = false ∨ (takeSpaced s.flags.spaced p s.rest.length s.rest).2 ≠ []) :
    Follows (takeWhile p) (takeWhile p) s u := by
  obtain ⟨htaken, hleft⟩ := h.rest.takeSpaced s.flags.spaced (Nat.le_refl _) (Nat.le_refl _) hp
  rintro _ _ ⟨⟩
  refine ⟨{ u with rest := (takeSpaced s.flags.spaced p u.rest.length u.rest).2 }, ?_, hleft, h.flags, h.opened, h.names⟩
  rw [← htaken, ← h.flags]
  rfl

theorem takeWhile_steady {p : Char → Bool} (hp : p ')' = false) : Steady (takeWhile p) :=
  fun _ _ h => takeWhile_follows h (.inl hp)

/-- What stands between braces ends before what may follow. -/
theorem braced_steady : Steady braced := by
  intro s u h
  by_cases hleft : (takeSpaced s.flags.spaced (· ≠ '\x7d') s.rest.length s.rest).2 = []
  · intro text s' htext
    rw [braced] at htext
    obtain ⟨_, s'', htaken, hread⟩ := of_bind htext
    cases htaken
    rw [rest_bind_of_nil hleft] at hread
    cases hread
  · refine (takeWhile_follows h (.inr hleft)).bind fun text s u h => ?_
    refine .char_bind h (fun _ => .failure) fun c cs ds _ hrest => ?_
    exact (Follows.goOn hrest h).bind fun _ _ _ h => .pure _ h

theorem fixedHex_steady (n : Nat) : Steady (fixedHex n) := by
  induction n with
  | zero => exact .pure _
  | succ n ih =>
    intro s u h
    refine .char_bind h (fun _ => .failure) fun c cs ds _ hrest => ?_
    exact (Follows.goOnSkipping hrest h).bind fun _ _ _ h => (ih _ _ h).bind fun _ _ _ h => .pure _ h

theorem property_follows (negated : Bool) {s u : State} (h : s.Prolonged u) (hs : s.rest ≠ []) :
    Follows (property negated) (property negated) s u := by
  refine drop_follows h hs fun s u h => ?_
  refine .char_bind h (fun _ => .failure) fun c cs ds _ hrest => ?_
  by_cases hbackslash : c = '\\'
  · subst hbackslash
    exact .failure
  by_cases hbrace : c = '\x7b'
  · subst hbrace
    refine (Follows.goOnSkipping hrest h).bind fun _ s u h => ?_
    exact (braced_steady s u h).bind fun _ _ _ h => .pure _ h
  · simp only
    exact (Follows.goOnSkipping hrest h).bind fun _ _ _ h => .pure _ h

theorem hexChar_follows (digits : Nat) {s u : State} (h : s.Prolonged u) (hs : s.rest ≠ []) :
    Follows (hexChar digits) (hexChar digits) s u := by
  refine drop_follows h hs fun s u h => ?_
  refine .next_bind h '\x7b' (by decide) ?_ (fun cs ds hrest => ?_) ?_
  · intro cs hcs
    split <;> simp_all
  · refine (Follows.goOnSkipping hrest h).bind fun _ s u h => ?_
    refine (braced_steady s u h).bind fun text s u h => ?_
    cases charOfHex? text with
    | none => exact .failure
    | some c => exact skip_follows h fun _ _ h => .pure _ h
  · refine (fixedHex_steady digits s u h).bind fun text s u h => ?_
    cases charOfHex? text with
    | none => exact .failure
    | some c => exact .pure _ h

theorem wordEdge_steady : Steady wordEdge := by
  intro s u h
  refine .next_bind h '\x7b' (by decide) ?_ (fun cs ds hrest => ?_) (.pure _ h)
  · intro cs hcs
    split <;> simp_all
  · refine .get_bind ?_
    have hbefore := h.rest
    generalize s.rest = before at hbefore ⊢
    generalize u.rest = before' at hbefore ⊢
    refine (Follows.goOnSkipping hrest h).bind fun _ s u h => ?_
    refine .char_bind h (fun _ => .failure) fun c cs ds _ hrest => ?_
    by_cases hletter : isEdgeLetter c
    · simp only [hletter, if_true]
      refine (takeWhile_steady (by decide) s u h).bind fun name s u h => ?_
      refine .next_bind h '\x7d' (by decide) ?_ (fun cs ds hrest => ?_) .failure
      · intro cs hcs
        split <;> simp_all
      · refine (Follows.goOn hrest h).bind fun _ s u h => ?_
        split
        · exact .pure _ h
        · exact .pure _ h
        · exact .pure _ h
        · exact .pure _ h
        · exact .failure
    · simp only [hletter]
      exact (Follows.goOn hbefore h).bind fun _ _ _ h => .pure _ h

theorem escape_steady : Steady escape := by
  intro s u h
  refine .char_bind h (fun _ => .failure) fun c cs ds hs hrest => ?_
  have hne : s.rest ≠ [] := by simp [hs]
  dsimp only
  split
  · exact hexChar_follows 2 h hne
  · exact hexChar_follows 4 h hne
  · exact hexChar_follows 8 h hne
  · exact property_follows false h hne
  · exact property_follows true h hne
  · refine (Follows.goOn hrest h).bind fun _ s u h => .get_bind ?_
    rw [h.flags]
    split
    any_goals exact .pure _ h
    · exact (wordEdge_steady s u h).bind fun _ _ _ h => .pure _ h
    · split
      · exact .pure _ h
      · exact .failure

/-! ### Brackets -/

theorem bracketItem_steady : Steady bracketItem := by
  intro s u h
  refine .char_bind h (fun _ => .failure) fun c cs ds _ hrest => ?_
  by_cases hbackslash : c = '\\'
  · subst hbackslash
    exact (Follows.goOn hrest h).bind fun _ => escape_steady
  · simp only
    exact (Follows.goOn hrest h).bind fun _ _ _ h => .pure _ h

/-- The character after the next one is the same, unless it may be the one that closes. -/
theorem Prolonged.second_iff {cs ds : List Char} (h : Prolonged cs ds) (spaced : Bool) (c x : Char) (hclose : x ≠ ')') :
    second spaced (c :: ds) = some x ↔ second spaced (c :: cs) = some x := by
  have hskip := h.skip spaced
  simp only [second]
  generalize Reader.skip spaced cs = cs at hskip
  generalize Reader.skip spaced ds = ds at hskip
  cases hskip with
  | nil => rfl
  | ending => simp [Reader.ending, hclose.symm]
  | cons => rfl

theorem range_steady : Steady range := by
  intro s u h
  refine (bracketItem_steady s u h).bind fun first s u h => ?_
  refine skip_follows h fun s u h => .get_bind ?_
  have hrest := h.rest
  generalize s.rest = cs at hrest ⊢
  generalize u.rest = ds at hrest ⊢
  rw [h.flags]
  cases hrest with
  | nil => exact .failure
  | ending => exact .failure
  | @cons c cs ds hrest =>
    dsimp only
    simp only [hrest.second_iff s.flags.spaced c ']' (by decide), hrest.second_iff s.flags.spaced c '-' (by decide)]
    split
    · cases first with
      | char c byte => exact (memberChar_steady _ s u h).bind fun _ _ _ h => .pure _ h
      | digits | blanks | word | property | anchor => exact classOfEscape_steady _ s u h
    · refine (Follows.goOnSkipping hrest h).bind fun _ s u h => ?_
      refine .char_bind h (fun _ => .failure_bind) fun c cs ds _ hrest => ?_
      refine (bracketItem_steady s u h).bind fun last s u h => ?_
      refine (memberChar_steady first s u h).bind fun first s u h => ?_
      refine (memberChar_steady last s u h).bind fun last s u h => ?_
      split
      · exact .pure _ h
      · exact .failure

theorem Prolonged.operation? {cs ds : List Char} (h : Prolonged cs ds) :
    (operation? cs = none ∧ Reader.operation? ds = none) ∨ ∃ op cs' ds', Reader.operation? cs = some (op, cs') ∧
      Reader.operation? ds = some (op, ds') ∧ Prolonged cs' ds' := by
  rcases h with _ | _ | @⟨c, _, _, _ | _ | @⟨d, cs, ds, h⟩⟩
  · simp [Reader.operation?]
  · simp [Reader.operation?, Reader.ending]
  · simp [Reader.operation?]
  · simp [Reader.operation?, Reader.ending]
  · by_cases hsame : c = d
    · subst hsame
      by_cases hand : c = '&'
      · subst hand
        exact .inr ⟨_, _, _, rfl, rfl, h⟩
      by_cases hhyphen : c = '-'
      · subst hhyphen
        exact .inr ⟨_, _, _, rfl, rfl, h⟩
      by_cases htilde : c = '~'
      · subst htilde
        exact .inr ⟨_, _, _, rfl, rfl, h⟩
      · exact .inl (by simp [Reader.operation?, hand, hhyphen, htilde])
    · refine .inl ?_
      constructor
      · rw [Reader.operation?]
        all_goals rintro _ ⟨⟩; exact hsame rfl
      · rw [Reader.operation?]
        all_goals rintro _ ⟨⟩; exact hsame rfl

/-- The class of a name that ends with a colon, once its opening and a caret after it were read. -/
def classNamed? (negated : Bool) (cs : List Char) : Option (Bool × CharSet × List Char) :=
  match cs.dropWhile (· ≠ ':') with
  | ':' :: ']' :: left => (asciiClass? (String.ofList (cs.takeWhile (· ≠ ':')))).map (negated, ·, left)
  | _ => none

theorem namedClass?_caret (cs : List Char) : namedClass? ('[' :: ':' :: '^' :: cs) = classNamed? true cs := rfl

theorem namedClass?_name {cs : List Char} (h : cs.head? ≠ some '^') :
    namedClass? ('[' :: ':' :: cs) = classNamed? false cs := by
  cases cs with
  | nil => rfl
  | cons c cs =>
    have hc : c ≠ '^' := by simpa using h
    rw [namedClass?]
    · rfl
    · intro cs' heq
      exact hc (List.cons.inj heq).1

theorem namedClass?_eq_none {c d : Char} (cs : List Char) (h : ¬ (c = '[' ∧ d = ':')) :
    namedClass? (c :: d :: cs) = none := by
  rw [namedClass?]
  rintro _ ⟨⟩
  exact h ⟨rfl, rfl⟩

theorem Prolonged.classNamed? {cs ds : List Char} (h : Prolonged cs ds) (negated : Bool) :
    (classNamed? negated cs = none ∧ Reader.classNamed? negated ds = none) ∨ ∃ chars cs' ds',
      Reader.classNamed? negated cs = some (negated, chars, cs') ∧
      Reader.classNamed? negated ds = some (negated, chars, ds') ∧ Prolonged cs' ds' := by
  have hnil := h.dropWhile_eq_nil (p := (· ≠ ':')) (by simp [Reader.ending])
  have hname := h.takeWhile (p := (· ≠ ':'))
  rw [Reader.classNamed?, Reader.classNamed?]
  generalize cs.dropWhile (· ≠ ':') = left at hnil hname ⊢
  generalize ds.dropWhile (· ≠ ':') = left' at hnil hname ⊢
  cases left with
  | nil => exact .inl ⟨rfl, by rw [hnil rfl]⟩
  | cons c left =>
    obtain ⟨htaken, hleft⟩ := hname (List.cons_ne_nil c left)
    rw [htaken]
    rcases hleft with _ | _ | @⟨_, _, _, _ | _ | @⟨d, left, left', hleft⟩⟩
    · simp
    · simp [Reader.ending]
    · by_cases hclosed : c = ':' ∧ d = ']'
      · obtain ⟨rfl, rfl⟩ := hclosed
        cases hclass : asciiClass? (String.ofList (cs.takeWhile (· ≠ ':'))) with
        | none => exact .inl ⟨by simp, by simp⟩
        | some chars => exact .inr ⟨chars, left, left', by simp, by simp, hleft⟩
      · simp_all

theorem Prolonged.namedClass? {cs ds : List Char} (h : Prolonged cs ds) :
    (namedClass? cs = none ∧ Reader.namedClass? ds = none) ∨ ∃ negated chars cs' ds',
      Reader.namedClass? cs = some (negated, chars, cs') ∧
      Reader.namedClass? ds = some (negated, chars, ds') ∧ Prolonged cs' ds' := by
  rcases h with _ | _ | @⟨c, _, _, _ | _ | @⟨d, cs, ds, h⟩⟩
  · simp [Reader.namedClass?]
  · simp [Reader.namedClass?, Reader.ending]
  · simp [Reader.namedClass?]
  · simp [Reader.namedClass?, Reader.ending]
  · by_cases hopen : c = '[' ∧ d = ':'
    · obtain ⟨rfl, rfl⟩ := hopen
      by_cases hcaret : cs.head? = some '^'
      · obtain ⟨cs, rfl⟩ := List.head?_eq_some_iff.1 hcaret
        cases h with
        | cons _ h =>
          rw [namedClass?_caret, namedClass?_caret]
          exact (h.classNamed? true).imp_right fun hsome => ⟨true, hsome⟩
      · have hcaret' : ds.head? ≠ some '^' := by
          cases h with
          | nil => simp
          | ending => simp [Reader.ending]
          | cons => exact hcaret
        rw [namedClass?_name hcaret, namedClass?_name hcaret']
        exact (h.classNamed? false).imp_right fun hsome => ⟨false, hsome⟩
    · exact .inl ⟨namedClass?_eq_none _ hopen, namedClass?_eq_none _ hopen⟩

theorem leadingHyphens_eq (spaced : Bool) (n : Nat) (cs : List Char) :
    leadingHyphens spaced n cs = ((takeSpaced spaced (· = '-') n cs).1.length, (takeSpaced spaced (· = '-') n cs).2) := by
  induction n generalizing cs with
  | zero => rw [leadingHyphens, takeSpaced]; rfl
  | succ n ih =>
    cases cs with
    | nil => simp [leadingHyphens, takeSpaced]
    | cons c cs =>
      by_cases hc : c = '-'
      · subst hc
        simp [leadingHyphens, takeSpaced, ih]
      · simp [leadingHyphens, takeSpaced, hc]

theorem Prolonged.leadingHyphens {cs ds : List Char} (h : Prolonged cs ds) (spaced : Bool) :
    (leadingHyphens spaced ds.length ds).1 = (leadingHyphens spaced cs.length cs).1 ∧
      Prolonged (Reader.leadingHyphens spaced cs.length cs).2 (Reader.leadingHyphens spaced ds.length ds).2 := by
  obtain ⟨htaken, hleft⟩ := h.takeSpaced spaced (Nat.le_refl _) (Nat.le_refl _) (p := (· = '-')) (.inl (by decide))
  simp only [leadingHyphens_eq, htaken]
  exact ⟨trivial, hleft⟩

theorem bracketStart_follows {s u : State} (h : s.Prolonged u) (hs : s.rest ≠ []) :
    Follows bracketStart bracketStart s u := by
  refine drop_follows h hs fun s u h => ?_
  refine .next_bind h '^' (by decide) ?_ (fun cs ds hrest => (Follows.goOnSkipping hrest h).bind fun _ s u h =>
    .bind (.pure _ h) ?_) (.bind (.pure _ h) ?_)
  · intro cs hcs
    split <;> simp_all
  all_goals
    intro negated s u h
    refine .get_bind ?_
    obtain ⟨hcount, hleft⟩ := h.rest.leadingHyphens s.flags.spaced
    rw [h.flags]
    generalize leadingHyphens s.flags.spaced s.rest.length s.rest = x at hcount hleft ⊢
    generalize leadingHyphens s.flags.spaced u.rest.length u.rest = y at hcount hleft ⊢
    obtain ⟨hyphens, left⟩ := x
    obtain ⟨n, left'⟩ := y
    obtain rfl : n = hyphens := hcount
    refine (Follows.goOn hleft h).bind fun _ s u h => ?_
    dsimp only at hleft ⊢
    cases hleft with
    | nil => cases n <;> exact .failure
    | ending => cases n <;> exact .failure
    | @cons c cs ds hleft =>
      cases n with
      | zero =>
        by_cases hbracket : c = ']'
        · subst hbracket
          refine (Follows.goOnSkipping hleft h).bind fun _ s u h => ?_
          exact .char_bind h (fun _ => .failure_bind) fun c cs ds _ _ => .pure _ h
        · split
          · simp_all
          · simp_all
          · split
            · simp_all
            · simp_all
            · exact .pure _ h
      | succ n =>
        simp only
        exact .pure _ h

/-- A bracket ends before what may follow, and more steps than it takes change nothing. -/
theorem bracket_follows {n m : Nat} (hnm : n ≤ m) :
    (∀ s u, s.Prolonged u → s.rest ≠ [] → Follows (bracket n) (bracket m) s u) ∧
      ∀ left items s u, s.Prolonged u → Follows (bracketParts n left items) (bracketParts m left items) s u := by
  induction n generalizing m with
  | zero =>
    constructor
    · intro s u _ _
      rw [bracket]
      exact .failure
    · intro left items s u _
      rw [bracketParts]
      exact .failure
  | succ n ih =>
    obtain ⟨m, rfl⟩ : ∃ k, m = k + 1 := ⟨m - 1, by omega⟩
    obtain ⟨ihbracket, ihparts⟩ := ih (Nat.le_of_succ_le_succ hnm)
    constructor
    · intro s u h hs
      rw [bracket, bracket]
      refine (bracketStart_follows h hs).bind fun start s u h => ?_
      obtain ⟨negated, initial⟩ := start
      refine (ihparts none initial s u h).bind fun inside s u h => ?_
      refine (fold_steady _ s u h).bind fun _ s u h => ?_
      exact (negateIf_steady _ _ s u h).bind fun _ _ _ h => .pure _ h
    · intro left items s u h
      rw [bracketParts.eq_def (n + 1), bracketParts.eq_def (m + 1)]
      refine skip_follows h fun s u h => ?_
      refine .char_bind h (fun _ => .failure) fun c cs ds hs hrest => ?_
      rcases (Prolonged.cons c hrest).operation? with ⟨hcs, hds⟩ | ⟨op, cs', ds', hcs, hds, hafter⟩
      · rw [hcs, hds]
        dsimp only
        by_cases hclose : c = ']'
        · subst hclose
          refine (Follows.goOn hrest h).bind fun _ s u h => ?_
          rcases left with _ | ⟨op, a⟩
          · exact .pure _ h
          · exact combine_steady _ _ _ s u h
        by_cases hopen : c = '['
        · subst hopen
          rcases (Prolonged.cons '[' hrest).namedClass? with ⟨hcs, hds⟩ | ⟨negated, chars, cs', ds', hcs, hds, hafter⟩
          · simp only [hcs, hds]
            exact (ihbracket s u h (by simp [hs])).bind fun _ => ihparts _ _
          · simp only [hcs, hds]
            refine (Follows.goOn hafter h).bind fun _ s u h => ?_
            refine (fold_steady _ s u h).bind fun _ s u h => ?_
            exact (negateIf_steady _ _ s u h).bind fun _ => ihparts _ _
        · split
          · simp_all
          · simp_all
          · simp_all
          · split
            · simp_all
            · simp_all
            · simp_all
            · exact (range_steady s u h).bind fun _ => ihparts _ _
      · rw [hcs, hds]
        dsimp only
        refine Follows.bind ?_ fun a s u h => ?_
        · rcases left with _ | ⟨op, a⟩
          · exact .pure _ h
          · exact combine_steady _ _ _ s u h
        · exact (Follows.goOn hafter h).bind fun _ => ihparts _ _

theorem atom_steady : Steady atom := by
  refine .flags_bind (fun s => ?_) fun s u h => by rw [h]
  intro s u h
  refine .char_bind h (fun _ => .failure) fun c cs ds _ hrest => ?_
  by_cases hbackslash : c = '\\'
  · subst hbackslash
    refine (Follows.goOn hrest h).bind fun _ s u h => (escape_steady s u h).bind fun e s u h => ?_
    cases e with
    | char c byte => exact charPattern_steady c byte s u h
    | anchor a => exact .pure _ h
    | digits | blanks | word | property => exact (classOfEscape_steady _ s u h).bind fun _ _ _ h => .pure _ h
  · simp only
    refine (Follows.goOn hrest h).bind fun _ s u h => ?_
    split
    · exact (dot_steady s u h).bind fun _ _ _ h => .pure _ h
    · exact .pure _ h
    · exact .pure _ h
    · exact charPattern_steady _ _ s u h

theorem count_steady : Steady count := by
  have hblank {k : Unit → Reading (Option Nat)} (hk : Steady (k ())) :
      Steady (rest >>= fun cs => goOn (cs.dropWhile isBlank) >>= k) := fun s u h =>
    (Follows.goOn (h.rest.dropWhile isBlank_ending) h).bind fun _ => hk
  refine hblank (.bind (takeWhile_steady (by decide)) fun digits => hblank ?_)
  dsimp only
  split
  · exact .pure _
  · split
    · exact .pure _
    · exact .failure

theorem bounds_steady : Steady bounds := by
  intro s u h
  refine skip_follows h fun s u h => ?_
  refine .char_bind h (fun _ => .failure_bind) fun c cs ds _ hrest => ?_
  refine (count_steady s u h).bind fun least s u h => ?_
  cases least with
  | none => exact .failure
  | some least =>
    refine .next_bind h ',' (by decide) ?_ (fun cs ds hrest => (Follows.goOnSkipping hrest h).bind fun _ s u h =>
      .next_bind h '\x7d' (by decide) ?_ (fun cs ds hrest => .bind (.pure _ h) ?_)
        ((count_steady s u h).bind fun most s u h => ?counted)) (.bind (.pure _ h) ?_)
    · intro cs hcs
      split <;> simp_all
    · intro cs hcs
      split <;> simp_all
    case' counted =>
      rcases most with _ | most
      · exact .failure_bind
      refine .bind (.pure _ h) ?_
    -- Each way to come by the second bound goes on with the closing brace.
    all_goals
      intro most s u h
      refine .next_bind h '\x7d' (by decide) ?_
        (fun cs ds hrest => (Follows.goOnSkipping hrest h).bind fun _ s u h => ?_) .failure
      · intro cs hcs
        split <;> simp_all
      · split
        · exact .pure _ h
        · exact .failure

theorem repeatLast_steady (least : Nat) (most : Option Nat) (parts : List Part) :
    Steady (repeatLast least most parts) := by
  cases parts with
  | nil => exact .failure
  | cons p others =>
    intro s u h
    rw [repeatLast]
    dsimp only
    split
    · exact .failure_bind
    · refine .next_bind h '?' (by decide) ?_ (fun cs ds hrest => (Follows.goOn hrest h).bind fun _ s u h =>
        .bind (.pure _ h) ?_) (.bind (.pure _ h) ?_)
      · intro cs hcs
        split <;> simp_all
      all_goals exact fun reluctant => Steady.flags_bind (fun s => .pure _) fun s u h => by rw [h]

theorem newGroup_steady (name : Option String) : Steady (newGroup name) := by
  intro s u h
  refine .get_bind ?_
  rw [h.opened]
  cases name with
  | none =>
    rintro _ _ ⟨⟩
    exact ⟨_, rfl, h.rest, h.flags, rfl, h.names⟩
  | some name =>
    rw [h.names]
    dsimp only
    split
    · exact .failure_bind
    · rintro _ _ ⟨⟩
      exact ⟨_, rfl, h.rest, h.flags, rfl, rfl⟩

/-- Flags end before what may follow. -/
theorem Prolonged.readFlags {cs ds : List Char} (h : Prolonged cs ds) {flags flags' : Flags} {negated : Bool}
    {used last used' left : List Char} (hread : readFlags flags negated used last cs = some (flags', used', left)) :
    ∃ c cs' ds', left = c :: cs' ∧ Reader.readFlags flags negated used last ds = some (flags', used', c :: ds') ∧
      Prolonged cs' ds' := by
  induction h generalizing flags negated used last with
  | nil => simp [Reader.readFlags] at hread
  | ending => simp [Reader.readFlags] at hread
  | @cons c cs ds h ih =>
    rw [Reader.readFlags] at hread ⊢
    by_cases hend : c = ':' ∨ c = ')'
    · simp only [hend, if_true] at hread ⊢
      by_cases hlast : last = ['-']
      · simp [hlast] at hread
      · simp only [hlast, if_false, Option.some.injEq, Prod.mk.injEq] at hread ⊢
        obtain ⟨rfl, rfl, rfl⟩ := hread
        exact ⟨c, cs, ds, rfl, ⟨rfl, rfl, rfl⟩, h⟩
    · simp only [hend, if_false] at hread ⊢
      by_cases hused : used.contains c
      · simp only [hused, if_true] at hread
        cases hread
      · simp only [hused] at hread ⊢
        by_cases hminus : c = '-'
        · simp only [hminus, if_true] at hread ⊢
          exact ih hread
        · simp only [hminus, if_false] at hread ⊢
          cases hset : flags.set? c !negated with
          | none => simp [hset] at hread
          | some flags'' =>
            simp only [hset] at hread ⊢
            exact ih hread

theorem groupName_steady : Steady groupName := by
  intro s u h
  refine .char_bind h (fun _ => .failure) fun c cs ds _ hrest => ?_
  have hname := Prolonged.takeWhile (.cons c hrest) (p := continuesName)
  dsimp only
  generalize (c :: cs).takeWhile continuesName = name at *
  generalize (c :: ds).takeWhile continuesName = name' at *
  generalize (c :: cs).dropWhile continuesName = left at *
  generalize (c :: ds).dropWhile continuesName = left' at *
  cases left with
  | nil => exact .failure
  | cons d left =>
    obtain ⟨rfl, hleft⟩ := hname (List.cons_ne_nil d left)
    cases hleft with
    | @cons _ _ left' hleft =>
      by_cases hd : d = '>'
      · subst hd
        show Follows (if startsName c then _ else _) (if startsName c then _ else _) s u
        split
        · exact (Follows.goOn hleft h).bind fun _ _ _ h => .pure _ h
        · exact .failure
      · split
        · simp_all
        · exact .failure

theorem opening_steady : Steady opening := by
  intro s u h
  refine skip_follows h fun s u h => ?_
  refine .next_bind h '?' (by decide) ?_ (fun cs ds hrest => ?_) (newGroup_steady _ s u h)
  · intro cs hcs
    split <;> simp_all
  · have hnamed {cs ds : List Char} (hrest : Prolonged cs ds) : Follows
        (goOn cs >>= fun _ => groupName >>= fun name => newGroup (some name))
        (goOn ds >>= fun _ => groupName >>= fun name => newGroup (some name)) s u :=
      (Follows.goOn hrest h).bind fun _ s u h =>
        (groupName_steady s u h).bind fun name s u h => newGroup_steady _ s u h
    by_cases hangle : ∃ cs', cs = '<' :: cs'
    · obtain ⟨cs, rfl⟩ := hangle
      cases hrest with
      | cons _ hrest => exact hnamed hrest
    by_cases hletter : ∃ cs', cs = 'P' :: '<' :: cs'
    · obtain ⟨cs, rfl⟩ := hletter
      rcases hrest with _ | _ | ⟨_, _ | _ | ⟨_, hrest⟩⟩
      exact hnamed hrest
    have hangle' : ¬ ∃ ds', ds = '<' :: ds' := by
      rintro ⟨ds', rfl⟩
      cases hrest with
      | cons _ hrest => exact hangle ⟨_, rfl⟩
    have hletter' : ¬ ∃ ds', ds = 'P' :: '<' :: ds' := by
      rintro ⟨ds', rfl⟩
      rcases hrest with _ | _ | ⟨_, _ | _ | ⟨_, hrest⟩⟩
      exact hletter ⟨_, rfl⟩
    split
    · simp_all
    · simp_all
    · split
      · simp_all
      · simp_all
      · next left _ _ hleft _ left' _ _ hleft' =>
        obtain ⟨-, rfl⟩ := List.cons_eq_cons.1 hleft
        obtain ⟨-, rfl⟩ := List.cons_eq_cons.1 hleft'
        refine .get_bind ?_
        rw [h.flags]
        cases hread : readFlags s.flags false [] [] cs with
        | none => exact .failure
        | some result =>
          obtain ⟨flags, used, left⟩ := result
          obtain ⟨c, cs, ds, rfl, hread', hrest⟩ := hrest.readFlags hread
          rw [hread']
          by_cases hclose : c = ')'
          · subst hclose
            show Follows (if used.isEmpty then _ else _) (if used.isEmpty then _ else _) s u
            split
            · exact .failure_bind
            · exact (Follows.goOn hrest h).bind fun _ _ _ h => .pure _ h
          · dsimp only
            split
            · simp_all
            · split
              · simp_all
              · exact (Follows.goOn hrest h).bind fun _ _ _ h => .pure _ h
      · simp_all
    · simp_all

theorem setFlags_follows {s u : State} (flags : Flags) (h : s.Prolonged u) :
    Follows (modify fun s => { s with flags }) (modify fun s => { s with flags }) s u := by
  rintro _ _ ⟨⟩
  exact ⟨_, rfl, h.rest, rfl, h.opened, h.names⟩

/-- Alternatives end before what may follow, and more steps than they take change nothing. -/
theorem alternatives_follows {n m : Nat} (hnm : n ≤ m) :
    (∀ s u, s.Prolonged u → Follows (alternatives n) (alternatives m) s u) ∧
      (∀ read s u, s.Prolonged u → Follows (parts n read) (parts m read) s u) ∧
      ∀ outer s u, s.Prolonged u → Follows (closed n outer) (closed m outer) s u := by
  induction n generalizing m with
  | zero =>
    refine ⟨fun s u _ => ?_, fun read s u _ => ?_, fun outer s u _ => ?_⟩
    · rw [alternatives]
      exact .failure
    · rw [parts]
      exact .failure
    · rw [closed]
      exact .failure
  | succ n ih =>
    obtain ⟨m, rfl⟩ : ∃ k, m = k + 1 := ⟨m - 1, by omega⟩
    obtain ⟨ihalternatives, ihparts, ihclosed⟩ := ih (Nat.le_of_succ_le_succ hnm)
    refine ⟨fun s u h => ?_, fun read s u h => ?_, fun outer s u h => ?_⟩
    · rw [alternatives, alternatives]
      refine (ihparts [] s u h).bind fun p s u h => ?_
      refine .branch_bind h '|' (by decide) ?_ ?_ (fun cs ds hrest => ?_) (.pure _ h)
      · intro cs hcs
        split <;> simp_all
      · intro cs hcs
        split <;> simp_all
      · refine (Follows.goOn hrest h).bind fun _ s u h => ?_
        exact (ihalternatives s u h).bind fun _ _ _ h => .pure _ h
    · rw [parts.eq_def (n + 1), parts.eq_def (m + 1)]
      refine skip_follows h fun s u h => ?_
      refine .rest_bind h (fun _ => .pure _ h) (fun _ => .pure _ h) fun c cs ds hs hrest => ?_
      by_cases hclose : c = ')'
      · subst hclose
        exact .pure _ h
      by_cases hbar : c = '|'
      · subst hbar
        exact .pure _ h
      by_cases hopen : c = '('
      · subst hopen
        refine (Follows.goOn hrest h).bind fun _ s u h => .get_bind ?_
        rw [h.flags]
        refine (opening_steady s u h).bind fun o s u h => ?_
        cases o with
        | flags flags => exact (setFlags_follows flags h).bind fun _ => ihparts _
        | plain flags =>
          refine (setFlags_follows flags h).bind fun _ s u h => ?_
          exact (ihclosed _ s u h).bind fun _ => ihparts _
        | group index => exact (ihclosed _ s u h).bind fun _ => ihparts _
      by_cases hbracket : c = '['
      · subst hbracket
        exact ((bracket_follows (Nat.le_of_succ_le_succ hnm)).1 s u h (by simp [hs])).bind fun _ => ihparts _
      by_cases hquestion : c = '?'
      · subst hquestion
        exact (Follows.goOn hrest h).bind fun _ s u h => (repeatLast_steady _ _ _ s u h).bind fun _ => ihparts _
      by_cases hstar : c = '*'
      · subst hstar
        exact (Follows.goOn hrest h).bind fun _ s u h => (repeatLast_steady _ _ _ s u h).bind fun _ => ihparts _
      by_cases hplus : c = '+'
      · subst hplus
        exact (Follows.goOn hrest h).bind fun _ s u h => (repeatLast_steady _ _ _ s u h).bind fun _ => ihparts _
      by_cases hbrace : c = '\x7b'
      · subst hbrace
        refine (Follows.goOn hrest h).bind fun _ s u h => (bounds_steady s u h).bind fun b s u h => ?_
        exact (repeatLast_steady _ _ _ s u h).bind fun _ => ihparts _
      · split
        any_goals simp_all; done
        split
        any_goals simp_all; done
        exact (atom_steady s u h).bind fun _ => ihparts _
    · rw [closed, closed]
      refine (ihalternatives s u h).bind fun inside s u h => ?_
      refine .char_bind h (fun _ => .failure) fun c cs ds _ hrest => ?_
      by_cases hclose : c = ')'
      · subst hclose
        rintro _ _ ⟨⟩
        exact ⟨_, rfl, hrest, rfl, h.opened, h.names⟩
      · split
        · simp_all
        · exact .failure

end AttributeRelease.Regex.Reader
