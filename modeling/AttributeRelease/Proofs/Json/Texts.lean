import AttributeRelease.Json.Reader
import AttributeRelease.Json.Writer

/-!
What is written is read back. Strings come back whatever their characters are, and so do integers that fit 64 bits. A
value without doubles comes back as the document without faults that stands for it, whatever follows its text, as long
as no number goes on there.
-/

namespace AttributeRelease.Json

namespace Reader

variable {c : Char} {cs rest : List Char}

theorem codeUnit?_hexDigit : ∀ n < 0x20,
    codeUnit? '0' '0' (Writer.hexDigit (n / 16)) (Writer.hexDigit (n % 16)) = some n := by decide

theorem not_surrogate : ∀ n < 0x20, isTrailing n = false ∧ isLeading n = false := by decide

/-- A character that needs no escape stands for itself. -/
theorem stringBody_plain (hquote : c ≠ '"') (hslash : c ≠ '\\') (hlow : ¬ c.toNat < 0x20) (rest : List Char)
    (read : Except Fault (List Char)) : stringBody (c :: rest) read = stringBody rest (read.map (c :: ·)) := by
  rw [stringBody]
  · exact if_neg hlow
  · exact hquote
  all_goals simp [hslash]

/-- What is written for a character is read as the character. -/
theorem stringBody_escape (c : Char) (rest : List Char) (read : Except Fault (List Char)) :
    stringBody (Writer.escape c ++ rest) read = stringBody rest (read.map (c :: ·)) := by
  unfold Writer.escape
  split
  · next h => subst h; rfl
  split
  · next h => subst h; rfl
  split
  · next h => subst h; rfl
  split
  · next h => subst h; rfl
  split
  · next h => subst h; rfl
  split
  · next h => subst h; rfl
  split
  · next h => subst h; rfl
  split
  · next hlow =>
    have hunit := codeUnit?_hexDigit c.toNat hlow
    obtain ⟨htrailing, hleading⟩ := not_surrogate c.toNat hlow
    simp only [List.cons_append, List.nil_append]
    rw [stringBody]
    simp only [hunit, htrailing, hleading, Char.ofNat_toNat]
    rfl
  · next hquote hslash _ _ _ _ _ hlow => exact stringBody_plain hquote hslash hlow rest read

theorem stringBody_flatMap (cs acc rest : List Char) :
    stringBody (cs.flatMap Writer.escape ++ '"' :: rest) (.ok acc) =
      ⟨.ok (String.ofList (acc.reverse ++ cs)), .ok rest⟩ := by
  induction cs generalizing acc with
  | nil =>
    rw [List.append_nil]
    rfl
  | cons c cs ih =>
    rw [List.flatMap_cons, List.append_assoc, stringBody_escape]
    show stringBody _ (.ok (c :: acc)) = _
    rw [ih, List.reverse_cons, List.append_assoc, List.singleton_append]

/-- The text of a string is read as the string. -/
theorem stringBody_string (s : String) (rest : List Char) :
    stringBody (s.toList.flatMap Writer.escape ++ '"' :: rest) (.ok []) = ⟨.ok s, .ok rest⟩ := by
  rw [stringBody_flatMap, List.reverse_nil, List.nil_append, String.ofList_toList]

/-- A number does not go on here. -/
def EndsNumber : List Char → Prop
  | [] => True
  | c :: _ => isDigit c = false ∧ c ≠ '.' ∧ c ≠ 'e' ∧ c ≠ 'E'

theorem digit?_of_isDigit (h : c.isDigit = true) : digit? c = some (c.toNat - '0'.toNat) := by
  rw [Char.isDigit, Bool.and_eq_true, decide_eq_true_eq, decide_eq_true_eq] at h
  exact if_pos h

theorem isDigit_of_isDigit (h : c.isDigit = true) : isDigit c = true := by
  rw [isDigit, digit?_of_isDigit h, Option.isSome_some]

theorem isDigit_natural {n : Nat} (h : c ∈ Writer.natural n) : c.isDigit = true :=
  Nat.isDigit_of_mem_toDigits (by decide) (by decide) h

/-- Only zero begins with the digit zero. -/
theorem natural_head (n : Nat) : Writer.natural n = ['0'] ∨ ∃ c cs, Writer.natural n = c :: cs ∧ c ≠ '0' := by
  unfold Writer.natural
  induction n using Nat.base_induction 10 (by decide) with
  | single n hn =>
    rw [Nat.toDigits_of_lt_base hn]
    by_cases hzero : n.digitChar = '0'
    · exact .inl (by rw [hzero])
    · exact .inr ⟨n.digitChar, [], rfl, hzero⟩
  | digit m k hk hm ih =>
    rw [← Nat.toDigits_append_toDigits (by decide) hm hk]
    rcases ih with hzero | ⟨c, cs, hcs, hne⟩
    · have hm' : m = 0 := by
        rw [← Nat.ofDigitChars_ten_toDigits (n := m), hzero]
        rfl
      omega
    · exact .inr ⟨c, cs ++ Nat.toDigits 10 k, by rw [hcs, List.cons_append], hne⟩

theorem le_ofDigitChars (cs : List Char) (n : Nat) : n ≤ Nat.ofDigitChars 10 cs n := by
  induction cs generalizing n with
  | nil => exact Nat.le_refl n
  | cons c rest ih =>
    rw [Nat.ofDigitChars_cons]
    calc n ≤ 10 * n + (c.toNat - '0'.toNat) := by omega
      _ ≤ _ := ih _

/-- Digits are taken as long as the number that they write fits. -/
theorem takeDigits_eq (hdigits : ∀ c ∈ cs, c.isDigit = true) (significand taken : Nat)
    (h : Nat.ofDigitChars 10 cs significand ≤ Number.maxNatural) :
    takeDigits cs significand taken = (Nat.ofDigitChars 10 cs significand, taken + cs.length, 0) := by
  induction cs generalizing significand taken with
  | nil => rfl
  | cons c rest ih =>
    obtain ⟨hc, hrest⟩ := List.forall_mem_cons.1 hdigits
    rw [Nat.ofDigitChars_cons] at h ⊢
    have hnext : significand * 10 + (digit? c).getD 0 = 10 * significand + (c.toNat - '0'.toNat) := by
      rw [digit?_of_isDigit hc, Option.getD_some, Nat.mul_comm]
    have hfits : 10 * significand + (c.toNat - '0'.toNat) ≤ Number.maxNatural :=
      Nat.le_trans (le_ofDigitChars rest _) h
    rw [takeDigits]
    simp only [hnext, hfits, if_true]
    rw [ih hrest _ _ h, List.length_cons, Nat.add_assoc, Nat.add_comm 1]

theorem takeDigits_natural {n : Nat} (h : n ≤ Number.maxNatural) :
    takeDigits (Writer.natural n) 0 0 = (n, (Writer.natural n).length, 0) := by
  have hvalue : Nat.ofDigitChars 10 (Writer.natural n) 0 = n := Nat.ofDigitChars_ten_toDigits
  rw [takeDigits_eq (fun c => isDigit_natural) 0 0 (by rwa [hvalue]), hvalue, Nat.zero_add]

theorem EndsNumber.takeWhile (h : EndsNumber rest) : rest.takeWhile isDigit = [] := by
  cases rest with
  | nil => rfl
  | cons c rest => rw [List.takeWhile_cons, if_neg (by rw [h.1]; decide)]

theorem EndsNumber.dropWhile (h : EndsNumber rest) : rest.dropWhile isDigit = rest := by
  cases rest with
  | nil => rfl
  | cons c rest => rw [List.dropWhile_cons, if_neg (by rw [h.1]; decide)]

/-- What is written for an integer that fits is read as the integer. -/
theorem numberBody_natural {n : Nat} (h : n ≤ Number.maxNatural) (hrest : EndsNumber rest) (positive : Bool) :
    numberBody positive (Writer.natural n ++ rest) = ⟨ofNumber? (Number.ofInteger positive n), .ok rest⟩ := by
  have hdigits : ∀ c ∈ Writer.natural n, isDigit c = true := fun c hc => isDigit_of_isDigit (isDigit_natural hc)
  have htake : (Writer.natural n ++ rest).takeWhile isDigit = Writer.natural n := by
    rw [List.takeWhile_append_of_pos hdigits, hrest.takeWhile, List.append_nil]
  have hdrop : (Writer.natural n ++ rest).dropWhile isDigit = rest := by
    rw [List.dropWhile_append_of_pos hdigits, hrest.dropWhile]
  rw [numberBody, htake, hdrop]
  dsimp only
  split
  · next hnil => exact absurd hnil Nat.toDigits_ne_nil
  · next d ds hzero =>
    rcases natural_head n with hone | ⟨c, cs, hcs, hne⟩
    · rw [hone] at hzero
      cases hzero
    · rw [hcs] at hzero
      exact absurd (List.cons.inj hzero).1 hne
  · rw [takeDigits_natural h]
    dsimp only
    cases rest with
    | nil => rfl
    | cons c rest =>
      obtain ⟨-, hdot, hlower, hupper⟩ := hrest
      split
      · next heq => exact absurd (List.cons.inj heq).1 hdot
      · next heq => exact absurd (List.cons.inj heq).1 hlower
      · next heq => exact absurd (List.cons.inj heq).1 hupper
      · rfl

end Reader

/-! ### Values -/

/-- An integer of 64 bits. -/
def Number.IsWhole : Number → Prop
  | .natural n => n ≤ maxNatural
  | .negative n => 0 < n ∧ n ≤ maxNegative
  | .real _ => False

mutual

/-- All numbers in a value are integers of 64 bits. -/
def IsWhole : Json → Prop
  | .null | .bool _ | .string _ => True
  | .number n => n.IsWhole
  | .array items => AreWhole items
  | .object members => MembersAreWhole members

def AreWhole : List Json → Prop
  | [] => True
  | j :: rest => IsWhole j ∧ AreWhole rest

def MembersAreWhole : List (String × Json) → Prop
  | [] => True
  | (_, j) :: rest => IsWhole j ∧ MembersAreWhole rest

end

namespace Reader

variable {c : Char} {cs rest : List Char}

/-- What comes first in the text of a value. -/
structure Begins (c : Char) : Prop where
  blank : isBlank c = false
  bracket : c ≠ ']'
  comma : c ≠ ','

theorem begins_of_isDigit (h : c.isDigit = true) : Begins c := by
  refine ⟨?_, ?_, ?_⟩
  · rw [Bool.eq_false_iff]
    intro hblank
    rw [isBlank] at hblank
    simp only [Bool.or_eq_true, decide_eq_true_eq] at hblank
    rcases hblank with ((rfl | rfl) | rfl) | rfl <;> exact absurd h (by decide)
  · rintro rfl
    exact absurd h (by decide)
  · rintro rfl
    exact absurd h (by decide)

theorem exists_begins {j : Json} (h : j.IsWhole) : ∃ c cs, Writer.value j = c :: cs ∧ Begins c := by
  match j, h with
  | .null, _ => exact ⟨_, _, rfl, by decide, by decide, by decide⟩
  | .bool true, _ => exact ⟨_, _, rfl, by decide, by decide, by decide⟩
  | .bool false, _ => exact ⟨_, _, rfl, by decide, by decide, by decide⟩
  | .number (.natural n), _ =>
    cases hcs : Writer.natural n with
    | nil => exact absurd hcs Nat.toDigits_ne_nil
    | cons c cs => exact ⟨c, cs, hcs, begins_of_isDigit (isDigit_natural (hcs ▸ List.mem_cons_self))⟩
  | .number (.negative n), _ => exact ⟨_, _, rfl, by decide, by decide, by decide⟩
  | .string s, _ => exact ⟨_, _, rfl, by decide, by decide, by decide⟩
  | .array [], _ => exact ⟨_, _, rfl, by decide, by decide, by decide⟩
  | .array (_ :: _), _ => exact ⟨_, _, rfl, by decide, by decide, by decide⟩
  | .object [], _ => exact ⟨_, _, rfl, by decide, by decide, by decide⟩
  | .object (_ :: _), _ => exact ⟨_, _, rfl, by decide, by decide, by decide⟩

theorem dropBlanks_of_begins (h : Begins c) (cs : List Char) : dropBlanks (c :: cs) = c :: cs := by
  rw [dropBlanks, List.dropWhile_cons, if_neg (by rw [h.blank]; decide)]

theorem value_of_isDigit (h : c.isDigit = true) (fuel : Nat) (cs : List Char) :
    value (fuel + 1) (c :: cs) = numberBody true (c :: cs) := by
  rw [value, dropBlanks_of_begins (begins_of_isDigit h)]
  split
  · next heq => cases heq
  · next heq => cases heq; exact absurd h (by decide)
  · next heq => cases heq; exact absurd h (by decide)
  · next heq => cases heq; exact absurd h (by decide)
  · next heq => cases heq; exact absurd h (by decide)
  · next heq => cases heq; exact absurd h (by decide)
  · next heq => cases heq; exact absurd h (by decide)
  · next heq => cases heq; exact absurd h (by decide)
  · next heq =>
    cases heq
    exact if_pos (isDigit_of_isDigit h)

theorem items_of_begins (h : Begins c) (fuel : Nat) (cs : List Char) :
    items (fuel + 1) true (c :: cs) = item fuel (c :: cs) := by
  rw [items, dropBlanks_of_begins h]
  split
  · next heq => cases heq
  · next heq => cases heq; exact absurd rfl h.bracket
  · next heq => cases heq; rfl
  · rfl

theorem items_of_comma (h : Begins c) (fuel : Nat) (cs : List Char) :
    items (fuel + 1) false (',' :: c :: cs) = item fuel (c :: cs) := by
  have hcomma : dropBlanks (',' :: c :: cs) = ',' :: c :: cs := rfl
  rw [items, hcomma]
  simp only [Bool.false_eq_true, if_false, dropBlanks_of_begins h]
  split
  · next heq => cases heq
  · next heq => cases heq; exact absurd rfl h.bracket
  · next heq => rfl

theorem length_value_pos {j : Json} (h : j.IsWhole) : 0 < (Writer.value j).length := by
  obtain ⟨c, cs, hcs, -⟩ := exists_begins h
  rw [hcs]
  exact Nat.succ_pos _

theorem endsNumber_items (js : List Json) (rest : List Char) : EndsNumber (Writer.items js ++ rest) := by
  cases js with
  | nil => exact ⟨by decide, by decide, by decide, by decide⟩
  | cons => exact ⟨by decide, by decide, by decide, by decide⟩

theorem endsNumber_members (ms : List (String × Json)) (rest : List Char) :
    EndsNumber (Writer.members ms ++ rest) := by
  cases ms with
  | nil => exact ⟨by decide, by decide, by decide, by decide⟩
  | cons m ms => exact ⟨by decide, by decide, by decide, by decide⟩

theorem value_number {n : Number} (h : n.IsWhole) (hrest : EndsNumber rest) (fuel : Nat) :
    value (fuel + 1) (Writer.number n ++ rest) = ⟨.number n, .ok rest⟩ := by
  match n, h with
  | .natural n, h =>
    obtain ⟨c, cs, hcs⟩ := List.exists_cons_of_ne_nil (Nat.toDigits_ne_nil (n := n) (b := 10))
    have hread := numberBody_natural h hrest true
    have hc : c.isDigit = true := isDigit_natural (hcs ▸ List.mem_cons_self)
    rw [Writer.natural, hcs] at hread
    rw [Writer.number, Writer.natural, hcs, List.cons_append, value_of_isDigit hc]
    exact hread
  | .negative n, ⟨hpos, hle⟩ =>
    have hread := numberBody_natural (Nat.le_trans hle (by decide)) hrest false
    have hinteger : Number.ofInteger false n = some (.negative n) := by
      rw [Number.ofInteger, if_neg (by decide), if_neg (by omega), if_pos hle]
    rw [hinteger] at hread
    exact hread

theorem value_string (s : String) (rest : List Char) (fuel : Nat) :
    value (fuel + 1) (Writer.string s ++ rest) = ⟨.string s, .ok rest⟩ := by
  have hread := stringBody_string s rest
  have hquote : ∀ cs, dropBlanks ('"' :: cs) = '"' :: cs := fun _ => rfl
  rw [Writer.string, List.append_assoc, List.cons_append, List.singleton_append, value, hquote]
  split
  · next heq => cases heq
  · next heq => exact absurd (List.cons.inj heq).1 (by decide)
  · next heq => exact absurd (List.cons.inj heq).1 (by decide)
  · next heq => exact absurd (List.cons.inj heq).1 (by decide)
  · next heq => rw [← (List.cons.inj heq).2, hread]
  · next heq => exact absurd (List.cons.inj heq).1 (by decide)
  · next heq => exact absurd (List.cons.inj heq).1 (by decide)
  · next heq => exact absurd (List.cons.inj heq).1 (by decide)
  · next hother _ _ _ heq => exact absurd (List.cons.inj heq).1.symm hother

section Parts

variable {d : Document} {ds : List Document} {ms : List (Key × Document)} {k : String} {ending : Ending}
  {rest' rest'' : List Char} {fuel : Nat}

theorem value_array (h : items fuel true cs = ⟨(ds, ending), .ok rest⟩) :
    value (fuel + 1) ('[' :: cs) = ⟨.array ds ending, .ok rest⟩ := by
  show (⟨.array (items fuel true cs).value.1 (items fuel true cs).value.2, (items fuel true cs).rest⟩ : Read Document) = _
  rw [h]

theorem value_object (h : members fuel true cs = ⟨(ms, ending), .ok rest⟩) :
    value (fuel + 1) ('\x7b' :: cs) = ⟨.object ms ending, .ok rest⟩ := by
  show (⟨.object (members fuel true cs).value.1 (members fuel true cs).value.2, (members fuel true cs).rest⟩ :
    Read Document) = _
  rw [h]

theorem item_of_value (hvalue : value fuel cs = ⟨d, .ok rest⟩) (htail : items fuel false rest = ⟨(ds, ending), .ok rest'⟩) :
    item (fuel + 1) cs = ⟨(d :: ds, ending), .ok rest'⟩ := by
  rw [item, hvalue]
  dsimp only
  rw [htail]

theorem member_of_value (hvalue : value fuel rest = ⟨d, .ok rest'⟩)
    (htail : members fuel false rest' = ⟨(ms, ending), .ok rest''⟩) :
    member (fuel + 1) (k.toList.flatMap Writer.escape ++ '"' :: ':' :: rest) =
      ⟨((.name k, d) :: ms, ending), .ok rest''⟩ := by
  have hcolon : dropBlanks (':' :: rest) = ':' :: rest := rfl
  simp only [member, stringBody_string k (':' :: rest), hcolon, hvalue, htail, ofString]

end Parts

mutual

/-- What is written for a value is read as the value. -/
theorem value_written : ∀ (j : Json), j.IsWhole → ∀ (fuel : Nat) (rest : List Char),
    3 * (Writer.value j).length ≤ fuel + 3 → EndsNumber rest →
      value (fuel + 3) (Writer.value j ++ rest) = ⟨.ofJson j, .ok rest⟩
  | .null, _, fuel, rest, _, _ => rfl
  | .bool true, _, fuel, rest, _, _ => rfl
  | .bool false, _, fuel, rest, _, _ => rfl
  | .number n, h, fuel, rest, _, hrest => value_number h hrest (fuel + 2)
  | .string s, _, fuel, rest, _, _ => value_string s rest (fuel + 2)
  | .array [], _, fuel, rest, _, _ => rfl
  | .array (j :: js), ⟨hj, hjs⟩, fuel, rest, hfuel, _ => by
    obtain ⟨c, cs, hcs, hbegins⟩ := exists_begins hj
    rw [Writer.value, List.length_append, List.length_cons] at hfuel
    -- the bracket and the first item take three of the fuel, as much as the bracket brought with it
    have hpos := length_value_pos hj
    obtain ⟨more, rfl⟩ : ∃ more, fuel = more + 3 := ⟨fuel - 3, by omega⟩
    have hhead := value_written j hj more (Writer.items js ++ rest) (by omega) (endsNumber_items js rest)
    have htail := items_written js hjs more rest (by omega)
    rw [Writer.value, List.append_assoc, List.cons_append]
    refine value_array ?_
    rw [hcs] at hhead ⊢
    exact (items_of_begins hbegins _ _).trans (item_of_value hhead htail)
  | .object [], _, fuel, rest, _, _ => rfl
  | .object ((k, j) :: ms), ⟨hj, hms⟩, fuel, rest, hfuel, _ => by
    rw [Writer.value] at hfuel ⊢
    simp only [Writer.string, List.length_append, List.length_cons, List.length_nil] at hfuel
    have hpos := length_value_pos hj
    obtain ⟨more, rfl⟩ : ∃ more, fuel = more + 3 := ⟨fuel - 3, by omega⟩
    have hhead := value_written j hj more (Writer.members ms ++ rest) (by omega) (endsNumber_members ms rest)
    have htail := members_written ms hms more rest (by omega)
    simp only [Writer.string, List.append_assoc, List.cons_append, List.nil_append]
    exact value_object (member_of_value hhead htail)

/-- What is written for the items after the first is read as the items. -/
theorem items_written : ∀ (js : List Json), AreWhole js → ∀ (fuel : Nat) (rest : List Char),
    3 * (Writer.items js).length ≤ fuel + 3 →
      items (fuel + 3) false (Writer.items js ++ rest) = ⟨(Document.ofItems js, .closed), .ok rest⟩
  | [], _, fuel, rest, _ => rfl
  | j :: js, ⟨hj, hjs⟩, fuel, rest, hfuel => by
    obtain ⟨c, cs, hcs, hbegins⟩ := exists_begins hj
    rw [Writer.items, List.length_append, List.length_cons] at hfuel
    have hpos := length_value_pos hj
    obtain ⟨more, rfl⟩ : ∃ more, fuel = more + 2 := ⟨fuel - 2, by omega⟩
    have hhead := value_written j hj more (Writer.items js ++ rest) (by omega) (endsNumber_items js rest)
    have htail := items_written js hjs more rest (by omega)
    rw [Writer.items, List.append_assoc, List.cons_append]
    rw [hcs] at hhead ⊢
    exact (items_of_comma hbegins _ _).trans (item_of_value hhead htail)

theorem members_written : ∀ (ms : List (String × Json)), MembersAreWhole ms → ∀ (fuel : Nat) (rest : List Char),
    3 * (Writer.members ms).length ≤ fuel + 3 →
      members (fuel + 3) false (Writer.members ms ++ rest) = ⟨(Document.ofMembers ms, .closed), .ok rest⟩
  | [], _, fuel, rest, _ => rfl
  | (k, j) :: ms, ⟨hj, hms⟩, fuel, rest, hfuel => by
    rw [Writer.members] at hfuel ⊢
    simp only [Writer.string, List.length_append, List.length_cons, List.length_nil] at hfuel
    have hpos := length_value_pos hj
    obtain ⟨more, rfl⟩ : ∃ more, fuel = more + 2 := ⟨fuel - 2, by omega⟩
    have hhead := value_written j hj more (Writer.members ms ++ rest) (by omega) (endsNumber_members ms rest)
    have htail := members_written ms hms more rest (by omega)
    simp only [Writer.string, List.append_assoc, List.cons_append, List.nil_append]
    exact member_of_value hhead htail

end

end Reader

/-- The text of a value is read as the value, with nothing after it. -/
theorem readText_toText {j : Json} (h : j.IsWhole) : readText (toText j) = ⟨.ofJson j, false⟩ := by
  have hread := Reader.value_written j h (3 * (Writer.value j).length) [] (by omega) trivial
  rw [List.append_nil] at hread
  simp only [readText, toText, String.toList_ofList, hread]
  rfl

end AttributeRelease.Json
