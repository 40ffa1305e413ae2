import AttributeRelease.Proofs.Fallible
import AttributeRelease.Proofs.Json.Texts

/-!
Documents without faults. A document that stands for a value gives the value back if it does not nest too deep. A
document whose text was read to its end can be passed over, whatever stands in it.
-/

namespace AttributeRelease.Json

mutual

/-- How deep arrays and objects nest in a value. -/
def nesting : Json → Nat
  | .null | .bool _ | .number _ | .string _ => 0
  | .array items => itemsNesting items + 1
  | .object members => membersNesting members + 1

def itemsNesting : List Json → Nat
  | [] => 0
  | j :: rest => max (nesting j) (itemsNesting rest)

def membersNesting : List (String × Json) → Nat
  | [] => 0
  | (_, j) :: rest => max (nesting j) (membersNesting rest)

end

mutual

/-- The members of all objects in a value stand in increasing order of their keys. -/
def IsSorted : Json → Prop
  | .null | .bool _ | .number _ | .string _ => True
  | .array items => AreSorted items
  | .object members => (members.map Prod.fst).Pairwise (· < ·) ∧ MembersAreSorted members

def AreSorted : List Json → Prop
  | [] => True
  | j :: rest => IsSorted j ∧ AreSorted rest

def MembersAreSorted : List (String × Json) → Prop
  | [] => True
  | (_, j) :: rest => IsSorted j ∧ MembersAreSorted rest

end

/-- A member whose key comes after all others is put at the end. -/
theorem insertMember_of_lt {key : String} {members : List (String × Json)} (h : ∀ m ∈ members, m.1 < key)
    (value : Json) : insertMember key value members = members ++ [(key, value)] := by
  induction members with
  | nil => rfl
  | cons m rest ih =>
    obtain ⟨k, v⟩ := m
    obtain ⟨hk, hrest⟩ := List.forall_mem_cons.1 h
    have hlt : ¬ key < k := String.lt_asymm hk
    have hne : key ≠ k := by
      rintro rfl
      exact String.lt_irrefl _ hk
    rw [insertMember, if_neg hlt, if_neg hne, ih hrest, List.cons_append]

theorem foldl_insertMember {acc members : List (String × Json)}
    (h : ((acc ++ members).map Prod.fst).Pairwise (· < ·)) :
    members.foldl (fun acc m => insertMember m.1 m.2 acc) acc = acc ++ members := by
  induction members generalizing acc with
  | nil => rw [List.foldl_nil, List.append_nil]
  | cons m rest ih =>
    have hlast : ∀ a ∈ acc, a.1 < m.1 := by
      rw [List.map_append, List.pairwise_append] at h
      exact fun a ha => h.2.2 _ (List.mem_map_of_mem ha) _ List.mem_cons_self
    rw [List.foldl_cons, insertMember_of_lt hlast, ih, List.append_assoc, List.singleton_append]
    rwa [List.append_assoc, List.singleton_append]

/-- Members that stand in order are an object as they are. -/
theorem ofMembers_of_sorted {members : List (String × Json)} (h : (members.map Prod.fst).Pairwise (· < ·)) :
    ofMembers members = .object members := by
  have hfold : members.foldl (fun acc m => insertMember m.1 m.2 acc) [] = [] ++ members := foldl_insertMember h
  rw [ofMembers, hfold, List.nil_append]

namespace Document

mutual

/-- A value comes back from the document that stands for it, if there is room. -/
theorem toJson_ofJson : ∀ (j : Json) (depth : Nat), j.IsSorted → j.nesting ≤ depth →
    (ofJson j).toJson depth = .ok j
  | .null, _, _, _ => rfl
  | .bool _, _, _, _ => rfl
  | .number _, _, _, _ => rfl
  | .string _, _, _, _ => rfl
  | .array items, depth + 1, hsorted, hdepth => by
    rw [ofJson, toJson, toItems_ofItems items depth hsorted (Nat.le_of_succ_le_succ hdepth)]
    rfl
  | .object members, depth + 1, ⟨hkeys, hsorted⟩, hdepth => by
    rw [ofJson, toJson, toMembers_ofMembers members depth hsorted (Nat.le_of_succ_le_succ hdepth)]
    exact congrArg Except.ok (ofMembers_of_sorted hkeys)

theorem toItems_ofItems : ∀ (items : List Json) (depth : Nat), AreSorted items → itemsNesting items ≤ depth →
    toItems depth (ofItems items) = .ok items
  | [], _, _, _ => rfl
  | j :: rest, depth, ⟨hj, hrest⟩, hdepth => by
    obtain ⟨hfirst, hmore⟩ := Nat.max_le.1 hdepth
    rw [ofItems, toItems, toJson_ofJson j depth hj hfirst, toItems_ofItems rest depth hrest hmore]
    rfl

theorem toMembers_ofMembers : ∀ (members : List (String × Json)) (depth : Nat), MembersAreSorted members →
    membersNesting members ≤ depth → toMembers depth (ofMembers members) = .ok members
  | [], _, _, _ => rfl
  | (k, j) :: rest, depth, ⟨hj, hrest⟩, hdepth => by
    obtain ⟨hfirst, hmore⟩ := Nat.max_le.1 hdepth
    rw [ofMembers, toMembers, toJson_ofJson j depth hj hfirst, toMembers_ofMembers rest depth hrest hmore]
    rfl

end

end Document

/-! ### Passing over -/

/-- Neither an array nor an object. -/
def Document.IsFlat : Document → Prop
  | .array .. | .object .. => False
  | _ => True

theorem Document.IsFlat.skip {d : Document} (h : d.IsFlat) : d.skip = .ok () := by
  cases d with
  | array => cases h
  | object => cases h
  | _ => rfl

namespace Reader

theorem isFlat_ofNumber? (n : Option Number) : (ofNumber? n).IsFlat := by
  cases n <;> trivial

theorem isFlat_exponentPart (positive : Bool) (significand : Nat) (exponent : Int) (cs : List Char) :
    (exponentPart positive significand exponent cs).value.IsFlat := by
  unfold exponentPart
  split
  dsimp only
  split
  · trivial
  · exact isFlat_ofNumber? _

theorem isFlat_numberBody (positive : Bool) (cs : List Char) : (numberBody positive cs).value.IsFlat := by
  unfold numberBody
  dsimp only
  split
  · trivial
  · trivial
  · split
    · split
      · trivial
      · split
        · exact isFlat_exponentPart ..
        · exact isFlat_exponentPart ..
        · exact isFlat_ofNumber? _
    · exact isFlat_exponentPart ..
    · exact isFlat_exponentPart ..
    · exact isFlat_ofNumber? _

theorem isFlat_word {d : Document} (h : d.IsFlat) (expected cs : List Char) : (word d expected cs).value.IsFlat := by
  induction expected generalizing cs with
  | nil => exact h
  | cons e es ih =>
    cases cs with
    | nil => trivial
    | cons c cs =>
      rw [word]
      split
      · exact ih cs
      · trivial

/-- Parts that were read to their bracket can be passed over. -/
structure Passes {α : Type} (skipParts : List α → Except Fault Unit) (read : Read (List α × Ending)) : Prop where
  closed {rest : List Char} (h : read.rest = .ok rest) : read.value.2 = .closed
  skips (h : read.value.2 = .closed) : skipParts read.value.1 = .ok ()

theorem Passes.broken {α : Type} {skipParts : List α → Except Fault Unit} (parts : List α) (afterComma : Bool)
    (fault fault' : Fault) : Passes skipParts ⟨(parts, .broken afterComma fault), .error fault'⟩ :=
  ⟨nofun, nofun⟩

/-- Whatever is read to its end within some fuel can be passed over. -/
structure Skips (fuel : Nat) : Prop where
  value {cs rest : List Char} (h : (value fuel cs).rest = .ok rest) : (Reader.value fuel cs).value.skip = .ok ()
  items (first : Bool) (cs : List Char) : Passes Document.skipItems (items fuel first cs)
  item (cs : List Char) : Passes Document.skipItems (item fuel cs)
  members (first : Bool) (cs : List Char) : Passes Document.skipMembers (members fuel first cs)
  member (cs : List Char) : Passes Document.skipMembers (member fuel cs)

variable {fuel : Nat}

/-- A value is flat, or its parts were read. -/
theorem value_cases (fuel : Nat) (cs : List Char) :
    (value (fuel + 1) cs).value.IsFlat ∨
      (∃ cs', value (fuel + 1) cs =
        ⟨.array (items fuel true cs').value.1 (items fuel true cs').value.2, (items fuel true cs').rest⟩) ∨
      ∃ cs', value (fuel + 1) cs =
        ⟨.object (members fuel true cs').value.1 (members fuel true cs').value.2, (members fuel true cs').rest⟩ := by
  rw [value]
  split
  · exact .inl trivial
  · exact .inl (isFlat_word (d := .null) trivial _ _)
  · exact .inl (isFlat_word (d := .bool true) trivial _ _)
  · exact .inl (isFlat_word (d := .bool false) trivial _ _)
  · split <;> exact .inl trivial
  · exact .inr (.inl ⟨_, rfl⟩)
  · exact .inr (.inr ⟨_, rfl⟩)
  · exact .inl (isFlat_numberBody ..)
  · split
    · exact .inl (isFlat_numberBody ..)
    · exact .inl trivial

theorem Skips.value_succ (ih : Skips fuel) {cs rest : List Char} (h : (Reader.value (fuel + 1) cs).rest = .ok rest) :
    (Reader.value (fuel + 1) cs).value.skip = .ok () := by
  rcases value_cases fuel cs with hflat | ⟨cs', harray⟩ | ⟨cs', hobject⟩
  · exact hflat.skip
  · rw [harray] at h ⊢
    obtain ⟨hclosed, hskips⟩ := ih.items true cs'
    rw [Document.skip, hskips (hclosed h), hclosed h]
    rfl
  · rw [hobject] at h ⊢
    obtain ⟨hclosed, hskips⟩ := ih.members true cs'
    rw [Document.skip, hskips (hclosed h), hclosed h]
    rfl

theorem Skips.items_succ (ih : Skips fuel) (first : Bool) (cs : List Char) :
    Passes Document.skipItems (Reader.items (fuel + 1) first cs) := by
  rw [Reader.items]
  split
  · exact .broken ..
  · exact ⟨fun _ => rfl, fun _ => rfl⟩
  · split
    · exact ih.item _
    · split
      · exact .broken ..
      · exact .broken ..
      · exact ih.item _
  · split
    · exact ih.item _
    · exact .broken ..

theorem Skips.item_succ (ih : Skips fuel) (cs : List Char) :
    Passes Document.skipItems (Reader.item (fuel + 1) cs) := by
  rw [Reader.item]
  dsimp only
  split
  · exact .broken ..
  · next rest hrest =>
    obtain ⟨hclosed, hskips⟩ := ih.items false rest
    refine ⟨hclosed, fun hending => ?_⟩
    rw [Document.skipItems, ih.value hrest]
    exact hskips hending

theorem Skips.members_succ (ih : Skips fuel) (first : Bool) (cs : List Char) :
    Passes Document.skipMembers (Reader.members (fuel + 1) first cs) := by
  rw [Reader.members]
  split
  · exact .broken ..
  · exact ⟨fun _ => rfl, fun _ => rfl⟩
  · split
    · exact ih.member _
    · exact .broken ..
  · split
    · exact .broken ..
    · split
      · exact .broken ..
      · exact ih.member _
      · exact .broken ..
  · exact .broken ..

theorem Skips.member_succ (ih : Skips fuel) (cs : List Char) :
    Passes Document.skipMembers (Reader.member (fuel + 1) cs) := by
  rw [Reader.member]
  dsimp only
  split
  · exact .broken ..
  · split
    · split
      · exact .broken ..
      · next rest hrest =>
        obtain ⟨hclosed, hskips⟩ := ih.members false rest
        refine ⟨hclosed, fun hending => ?_⟩
        rw [Document.skipMembers, ih.value hrest]
        exact hskips hending
    · exact .broken ..

theorem skips (fuel : Nat) : Skips fuel := by
  induction fuel with
  | zero =>
    refine ⟨?_, ?_, ?_, ?_, ?_⟩
    · intro cs rest h
      rw [Reader.value] at h
      cases h
    · exact fun first cs => .broken ..
    · exact fun cs => .broken ..
    · exact fun first cs => .broken ..
    · exact fun cs => .broken ..
  | succ fuel ih => exact ⟨ih.value_succ, ih.items_succ, ih.item_succ, ih.members_succ, ih.member_succ⟩

end Reader

theorem document_readText (text : String) :
    (readText text).document = (Reader.value (3 * text.toList.length + 3) text.toList).value := by
  simp only [readText]
  split <;> rfl

theorem Document.skip_of_skipMembers {ms : List (Key × Document)} (h : skipMembers ms = .ok ()) :
    ∀ m ∈ ms, m.2.skip = .ok () := by
  induction ms with
  | nil => simp
  | cons m rest ih =>
    obtain ⟨⟨⟩, hm, hrest⟩ := of_bind_ok h
    exact List.forall_mem_cons.2 ⟨hm, ih hrest⟩

/-- The members of an object that was read to its bracket can be passed over. -/
theorem skip_of_readText {text : String} {ms : List (Key × Document)} {trailing : Bool}
    (h : readText text = ⟨.object ms .closed, trailing⟩) : ∀ m ∈ ms, m.2.skip = .ok () := by
  have hdocument := (document_readText text).symm.trans (congrArg Text.document h)
  refine Document.skip_of_skipMembers ?_
  rcases Reader.value_cases _ text.toList with hflat | ⟨cs', harray⟩ | ⟨cs', hobject⟩
  · rw [hdocument] at hflat
    cases hflat
  · rw [harray] at hdocument
    cases hdocument
  · rw [hobject] at hdocument
    obtain ⟨hms, hending⟩ := Document.object.inj hdocument
    rw [← hms]
    exact ((Reader.skips _).members true cs').skips hending

end AttributeRelease.Json
