import AttributeRelease.Form.Written
import AttributeRelease.Proofs.Attribute.Merging
import AttributeRelease.Proofs.Fallible
import AttributeRelease.Proofs.Json.Documents

/-!
What is accepted from texts that were not written here. An accepted attribute has the listed values, each at its first
appearance. A text match is accepted unless its two flags contradict each other.
-/

namespace AttributeRelease

open Json (Document Ending Key)

namespace Form

variable {σ : Type} {fields : List (Field σ)} {key : Key} {d : Document} {ms : List (Key × Document)} {s s' parts : σ}

/-- One member of an object is read, or passed over if no field has its name. -/
inductive Takes (fields : List (Field σ)) (s : σ) : Key → Document → σ → Prop
  | passed {name : String} {d : Document} (hname : fields.find? (·.name = name) = none) (hskip : d.skip = .ok ()) :
    Takes fields s (.name name) d s
  | read {name : String} {d : Document} {f : Field σ} {s' : σ} (hname : fields.find? (·.name = name) = some f)
    (hset : f.isSet s = false) (hread : f.read d s = .ok s') : Takes fields s (.name name) d s'

theorem Takes.members (h : Takes fields s key d s') : members fields ((key, d) :: ms) s = members fields ms s' := by
  cases h with
  | @passed name _ hname hskip =>
    have hkey : lift (Key.name name).read = .ok name := rfl
    have hpassed : lift d.skip = .ok () := by rw [hskip]; rfl
    rw [Form.members, bind_of_ok hkey]
    simp only [hname]
    rw [bind_of_ok hpassed]
  | @read name _ _ _ hname hset hread =>
    have hkey : lift (Key.name name).read = .ok name := rfl
    rw [Form.members, bind_of_ok hkey]
    simp only [hname, hset, Bool.false_eq_true, if_false]
    rw [bind_of_ok hread]

theorem takes_of_members (h : members fields ((key, d) :: ms) s = .ok parts) :
    ∃ s', Takes fields s key d s' ∧ members fields ms s' = .ok parts := by
  cases key with
  | unreadable fault => cases h
  | stray fault => cases h
  | name name =>
    obtain ⟨name, ⟨⟩, h⟩ := of_bind_ok h
    split at h
    · next hname =>
      obtain ⟨⟨⟩, hskip, h⟩ := of_bind_ok h
      refine ⟨s, .passed hname ?_, h⟩
      cases hd : d.skip with
      | error fault => rw [hd] at hskip; cases hskip
      | ok => rfl
    · next f hname =>
      split at h
      · cases h
      · next hset =>
        obtain ⟨s', hread, h⟩ := of_bind_ok h
        exact ⟨s', .read hname (Bool.not_eq_true _ ▸ hset) hread, h⟩

theorem record_closed {start : σ} (h : members fields ms start = .ok s) :
    record fields start (.object ms .closed) = .ok s := by
  rw [record, h]
  rfl

/-- An array ends after the last field. -/
theorem of_positions_nil {ds : List Document} {ending : Ending} (h : positions [] ds ending s = .ok parts) :
    ds = [] ∧ ending = .closed ∧ s = parts := by
  match ds, ending, h with
  | [], .closed, h => exact ⟨rfl, rfl, Except.ok.inj h⟩
  | [], .broken true _, h => cases h
  | [], .broken false _, h => cases h
  | _ :: _, .closed, h => cases h
  | _ :: _, .broken _ _, h => cases h

theorem of_ofText {α : Type} {read : Document → Except FormError α} {text : Json.Text} {a : α}
    (h : ofText read text = .ok a) : read text.document = .ok a := by
  obtain ⟨a', hread, h⟩ := of_bind_ok h
  split at h
  · cases h
  · cases h
    exact hread

end Form

/-! ### Attributes -/

namespace Attribute

/-- A document lists values for an attribute: under their name, or behind the id in an array, or not at all. -/
inductive Lists : Document → List Value → Prop
  | member {ms : List (Key × Document)} {values : Document} {vs : List Value} (hmem : (.name "values", values) ∈ ms)
    (hread : Form.list (Value.ofNested 2) values = .ok vs) : Lists (.object ms .closed) vs
  | noMember {ms : List (Key × Document)} (h : ∀ values, (.name "values", values) ∉ ms) : Lists (.object ms .closed) []
  | item {id values : Document} {vs : List Value} (hread : Form.list (Value.ofNested 2) values = .ok vs) :
    Lists (.array [id, values] .closed) vs
  | noItem (id : Document) : Lists (.array [id] .closed) []

/-- One member of an object gives an attribute under construction its values, or leaves them as they are. -/
theorem values_of_takes {s s' : Parts} {key : Key} {d : Document} (h : Form.Takes fields s key d s') :
    (key ≠ .name "values" ∧ s'.values = s.values) ∨
      key = .name "values" ∧ s.values = none ∧ ∃ vs, Form.list (Value.ofNested 2) d = .ok vs ∧ s'.values = some vs := by
  cases h with
  | @passed name _ hname _ =>
    refine .inl ⟨?_, rfl⟩
    rintro ⟨⟩
    cases hname
  | @read name d f s' hname hset hread =>
    by_cases hid : name = "id"
    · subst hid
      cases hname
      refine .inl ⟨by simp, ?_⟩
      change (do return ({ s with id := some (← Form.string d) } : Parts)) = Except.ok s' at hread
      obtain ⟨id, -, hread⟩ := of_bind_ok hread
      cases hread
      rfl
    · by_cases hvalues : name = "values"
      · subst hvalues
        cases hname
        refine .inr ⟨rfl, Option.isSome_eq_false_iff.1 hset |> Option.isNone_iff_eq_none.1, ?_⟩
        change (do return ({ s with values := some (← Form.list (Value.ofNested 2) d) } : Parts)) = Except.ok s' at hread
        obtain ⟨vs, hlist, hread⟩ := of_bind_ok hread
        cases hread
        exact ⟨vs, hlist, rfl⟩
      · have hother : fields.find? (·.name = name) = none := by
          rw [fields, List.find?_cons_of_neg (by simpa using Ne.symm hid),
            List.find?_cons_of_neg (by simpa using Ne.symm hvalues), List.find?_nil]
        rw [hother] at hname
        cases hname

/-- What was read into an attribute under construction from the members of an object. -/
theorem values_of_members {ms : List (Key × Document)} {s parts : Parts} (h : Form.members fields ms s = .ok parts) :
    (parts.values = s.values ∧ ∀ values, (.name "values", values) ∉ ms) ∨
      s.values = none ∧ ∃ values vs, (.name "values", values) ∈ ms ∧ Form.list (Value.ofNested 2) values = .ok vs ∧
        parts.values = some vs := by
  induction ms generalizing s with
  | nil =>
    cases h
    exact .inl ⟨rfl, by simp⟩
  | cons m rest ih =>
    obtain ⟨key, d⟩ := m
    obtain ⟨s', htakes, hrest⟩ := Form.takes_of_members h
    rcases values_of_takes htakes with ⟨hkey, hsame⟩ | ⟨rfl, hnone, vs, hread, hvs⟩
    · rcases ih hrest with ⟨hparts, hmissing⟩ | ⟨hunset, values, vs, hmem, hread, hvs⟩
      · refine .inl ⟨hparts.trans hsame, fun values hmem => ?_⟩
        rcases List.mem_cons.1 hmem with heq | hmem
        · exact hkey (congrArg Prod.fst heq).symm
        · exact hmissing values hmem
      · exact .inr ⟨hsame ▸ hunset, values, vs, List.mem_cons_of_mem _ hmem, hread, hvs⟩
    -- a second member of that name would have been refused
    · rcases ih hrest with ⟨hparts, -⟩ | ⟨hunset, -⟩
      · exact .inr ⟨hnone, d, vs, List.mem_cons_self, hread, hparts.trans hvs⟩
      · rw [hvs] at hunset
        cases hunset

/-- A member with values is the one that was read. -/
theorem values_of_mem {ms : List (Key × Document)} {s parts : Parts} {d : Document}
    (h : Form.members fields ms s = .ok parts) (hmem : (.name "values", d) ∈ ms) :
    ∃ vs, Form.list (Value.ofNested 2) d = .ok vs ∧ parts.values = some vs := by
  induction ms generalizing s with
  | nil => cases hmem
  | cons m rest ih =>
    obtain ⟨s', htakes, hrest⟩ := Form.takes_of_members h
    rcases List.mem_cons.1 hmem with rfl | hmem
    · rcases values_of_takes htakes with ⟨hkey, -⟩ | ⟨-, -, vs, hread, hvs⟩
      · exact absurd rfl hkey
      · rcases values_of_members hrest with ⟨hparts, -⟩ | ⟨hunset, -⟩
        · exact ⟨vs, hread, hparts.trans hvs⟩
        · rw [hvs] at hunset
          cases hunset
    · exact ih hrest hmem

theorem lists_of_object {ms : List (Key × Document)} {ending : Ending} {parts : Parts}
    (h : Form.record fields {} (.object ms ending) = .ok parts) : Lists (.object ms ending) (parts.values.getD []) := by
  obtain ⟨s, hmembers, h⟩ := of_bind_ok h
  cases ending with
  | broken afterComma fault => cases h
  | closed =>
    cases h
    rcases values_of_members hmembers with ⟨hvalues, hmissing⟩ | ⟨-, values, vs, hmem, hread, hvs⟩
    · rw [hvalues]
      exact .noMember hmissing
    · rw [hvs]
      exact .member hmem hread

theorem lists_of_array {ds : List Document} {ending : Ending} {parts : Parts}
    (h : Form.record fields {} (.array ds ending) = .ok parts) : Lists (.array ds ending) (parts.values.getD []) := by
  match ds, ending, h with
  | [], .closed, h => cases h
  | [], .broken _ _, h => cases h
  | [first], .closed, h =>
    obtain ⟨s, hid, h⟩ := of_bind_ok h
    obtain ⟨id, -, hid⟩ := of_bind_ok hid
    cases hid
    cases h
    exact .noItem first
  | [first], .broken _ _, h =>
    obtain ⟨s, hid, h⟩ := of_bind_ok h
    cases h
  | first :: values :: more, ending, h =>
    obtain ⟨s, hid, h⟩ := of_bind_ok h
    obtain ⟨id, -, hid⟩ := of_bind_ok hid
    cases hid
    obtain ⟨s, hvalues, h⟩ := of_bind_ok h
    obtain ⟨vs, hlist, hvalues⟩ := of_bind_ok hvalues
    cases hvalues
    obtain ⟨rfl, rfl, rfl⟩ := Form.of_positions_nil h
    exact .item hlist

/-- What a document lists is what was read into an attribute under construction. -/
theorem Lists.of_record {d : Document} {vs : List Value} {parts : Parts} (h : Lists d vs)
    (hrecord : Form.record fields {} d = .ok parts) : parts.values.getD [] = vs := by
  cases h with
  | member hmem hread =>
    obtain ⟨s, hmembers, hclosed⟩ := of_bind_ok hrecord
    cases hclosed
    obtain ⟨vs', hread', hvs⟩ := values_of_mem hmembers hmem
    rw [hread] at hread'
    rw [hvs, Except.ok.inj hread']
    rfl
  | noMember hmissing =>
    obtain ⟨s, hmembers, hclosed⟩ := of_bind_ok hrecord
    cases hclosed
    rcases values_of_members hmembers with ⟨hvs, -⟩ | ⟨-, values, vs, hmem, -⟩
    · rw [hvs]
      rfl
    · exact absurd hmem (hmissing values)
  | item hread =>
    obtain ⟨s, hid, hrest⟩ := of_bind_ok hrecord
    obtain ⟨id, -, hid⟩ := of_bind_ok hid
    cases hid
    obtain ⟨s, hvalues, hrest⟩ := of_bind_ok hrest
    obtain ⟨vs', hread', hvalues⟩ := of_bind_ok hvalues
    cases hvalues
    obtain ⟨-, -, rfl⟩ := Form.of_positions_nil hrest
    rw [hread] at hread'
    exact (Except.ok.inj hread').symm
  | noItem id =>
    obtain ⟨s, hid, hrest⟩ := of_bind_ok hrecord
    obtain ⟨id, -, hid⟩ := of_bind_ok hid
    cases hid
    cases hrest
    rfl

theorem Lists.values_eq {d : Document} {vs : List Value} {a : Attribute} (h : Lists d vs) (hread : ofDocument d = .ok a) :
    a.values = vs.eraseDups := by
  obtain ⟨parts, hrecord, hread⟩ := of_bind_ok hread
  obtain ⟨id, -, hread⟩ := of_bind_ok hread
  cases hread
  rw [← h.of_record hrecord]
  exact appendAllNew_nil _

/-- An accepted attribute has the listed values, each at its first appearance. -/
theorem values_of_ofDocument {d : Document} {a : Attribute} (h : ofDocument d = .ok a) :
    ∃ vs, Lists d vs ∧ a.values = vs.eraseDups := by
  obtain ⟨parts, hrecord, -⟩ := of_bind_ok h
  have hlists : Lists d (parts.values.getD []) := by
    match d, hrecord with
    | .object ms ending, hrecord => exact lists_of_object hrecord
    | .array ds ending, hrecord => exact lists_of_array hrecord
  exact ⟨_, hlists, hlists.values_eq h⟩

end Attribute

namespace TextMatch

/-- What the members of an object say of whether case counts: nothing if the flag is missing or `null`. -/
inductive Flag (entries : List (String × Document)) (name : String) : Option Bool → Prop
  | missing (h : entries.lookup name = none) : Flag entries name none
  | null (h : entries.lookup name = some .null) : Flag entries name none
  | bool {b : Bool} (h : entries.lookup name = some (.bool b)) : Flag entries name (some b)

/-- The members of an object suit a text match that is under construction. -/
structure Suits (entries : List (String × Document)) (s : Parts) : Prop where
  keys : (entries.map Prod.fst).Nodup
  value {d : Document} (h : entries.lookup "value" = some d) : s.value = none ∧ ∃ v, d = .string v
  caseSensitive {d : Document} (h : entries.lookup "case_sensitive" = some d) :
    s.caseSensitive = none ∧ (d = .null ∨ ∃ b, d = .bool b)
  ignoreCase {d : Document} (h : entries.lookup "ignore_case" = some d) :
    s.ignoreCase = none ∧ (d = .null ∨ ∃ b, d = .bool b)
  skips : ∀ e ∈ entries, e.2.skip = .ok ()

def text? : Document → Option String
  | .string v => some v
  | _ => none

def flag? : Document → Option Bool
  | .bool b => some b
  | _ => none

/-- A text match under construction, after the members of an object. -/
def Parts.after (s : Parts) (entries : List (String × Document)) : Parts where
  value := ((entries.lookup "value").map text?).getD s.value
  caseSensitive := ((entries.lookup "case_sensitive").map (some ∘ flag?)).getD s.caseSensitive
  ignoreCase := ((entries.lookup "ignore_case").map (some ∘ flag?)).getD s.ignoreCase

theorem find?_fields {name : String} (hvalue : name ≠ "value") (hsensitive : name ≠ "case_sensitive")
    (hignore : name ≠ "ignore_case") : fields.find? (·.name = name) = none := by
  simp [fields, hvalue.symm, hsensitive.symm, hignore.symm]

/-- One member of an object that suits is taken. -/
theorem Suits.takes {name : String} {d : Document} {rest : List (String × Document)} {s : Parts}
    (h : Suits ((name, d) :: rest) s) :
    ∃ s', Form.Takes fields s (.name name) d s' ∧ Suits rest s' ∧ s'.after rest = s.after ((name, d) :: rest) := by
  obtain ⟨hkeys, hvalue, hsensitive, hignore, hskips⟩ := h
  obtain ⟨hname, hrest⟩ := List.nodup_cons.1 hkeys
  have hnone : rest.lookup name = none := by
    rw [List.lookup_eq_none_iff]
    intro e he
    have hne : name ≠ e.1 := fun heq => hname (List.mem_map.2 ⟨e, he, heq.symm⟩)
    simpa using hne
  have hrestskips : ∀ e ∈ rest, e.2.skip = .ok () := fun e he => hskips e (List.mem_cons_of_mem _ he)
  by_cases h₁ : name = "value"
  · subst h₁
    obtain ⟨hs, v, rfl⟩ := hvalue List.lookup_cons_self
    refine ⟨{ s with value := some v }, .read rfl (by simp [hs]) rfl, ⟨hrest, ?_, ?_, ?_, hrestskips⟩, ?_⟩
    · simp [hnone]
    · exact fun h => hsensitive h
    · exact fun h => hignore h
    · simp [Parts.after, hnone, text?, List.lookup_cons]
  by_cases h₂ : name = "case_sensitive"
  · subst h₂
    obtain ⟨hs, hd⟩ := hsensitive List.lookup_cons_self
    refine ⟨{ s with caseSensitive := some (flag? d) }, .read rfl (by simp [hs]) ?_,
      ⟨hrest, fun h => hvalue h, ?_, fun h => hignore h, hrestskips⟩, ?_⟩
    · rcases hd with rfl | ⟨b, rfl⟩ <;> rfl
    · simp [hnone]
    · simp [Parts.after, hnone, List.lookup_cons]
  by_cases h₃ : name = "ignore_case"
  · subst h₃
    obtain ⟨hs, hd⟩ := hignore List.lookup_cons_self
    refine ⟨{ s with ignoreCase := some (flag? d) }, .read rfl (by simp [hs]) ?_,
      ⟨hrest, fun h => hvalue h, fun h => hsensitive h, ?_, hrestskips⟩, ?_⟩
    · rcases hd with rfl | ⟨b, rfl⟩ <;> rfl
    · simp [hnone]
    · simp [Parts.after, hnone, List.lookup_cons]
  · have hlookup {other : String} (hne : other ≠ name) : ((name, d) :: rest).lookup other = rest.lookup other :=
      Keyed.lookup_cons_of_ne hne d rest
    refine ⟨s, .passed (find?_fields h₁ h₂ h₃) (hskips _ List.mem_cons_self), ⟨hrest, ?_, ?_, ?_, hrestskips⟩, ?_⟩
    · exact fun h => hvalue ((hlookup (Ne.symm h₁)).trans h)
    · exact fun h => hsensitive ((hlookup (Ne.symm h₂)).trans h)
    · exact fun h => hignore ((hlookup (Ne.symm h₃)).trans h)
    · rw [Parts.after, Parts.after, hlookup (Ne.symm h₁), hlookup (Ne.symm h₂), hlookup (Ne.symm h₃)]

theorem Suits.members {entries : List (String × Document)} {s : Parts} (h : Suits entries s) :
    Form.members fields (entries.map fun e => (.name e.1, e.2)) s = .ok (s.after entries) := by
  induction entries generalizing s with
  | nil => rfl
  | cons e rest ih =>
    obtain ⟨s', htakes, hrest, hafter⟩ := h.takes
    rw [List.map_cons, htakes.members, ih hrest, hafter]

theorem Flag.suits {entries : List (String × Document)} {name : String} {o : Option Bool} (h : Flag entries name o)
    {d : Document} (hlookup : entries.lookup name = some d) : d = .null ∨ ∃ b, d = .bool b := by
  cases h with
  | missing h => rw [h] at hlookup; cases hlookup
  | null h => rw [h] at hlookup; cases hlookup; exact .inl rfl
  | @bool b h => rw [h] at hlookup; cases hlookup; exact .inr ⟨b, rfl⟩

theorem Flag.getD_after {entries : List (String × Document)} {name : String} {o : Option Bool} (h : Flag entries name o) :
    (((entries.lookup name).map (some ∘ flag?)).getD none).getD none = o := by
  cases h with
  | missing h => rw [h]; rfl
  | null h => rw [h]; rfl
  | bool h => rw [h]; rfl

/-- Flags contradict each other if both are given and are alike. -/
def Contradict (caseSensitive ignoreCase : Option Bool) : Prop :=
  ∃ b, caseSensitive = some b ∧ ignoreCase = some b

/-- Flags that do not contradict each other are accepted. The one of `case_sensitive` counts before the other. -/
theorem ofFlags_cases (value : String) (caseSensitive ignoreCase : Option Bool) :
    (Contradict caseSensitive ignoreCase ∧ ∃ e, ofFlags value caseSensitive ignoreCase = .error e) ∨
      ¬ Contradict caseSensitive ignoreCase ∧ ofFlags value caseSensitive ignoreCase =
        .ok ⟨value, caseSensitive.getD ((ignoreCase.map (!·)).getD true)⟩ := by
  match caseSensitive, ignoreCase with
  | some sensitive, some ignore =>
    by_cases h : sensitive = ignore
    · subst h
      exact .inl ⟨⟨sensitive, rfl, rfl⟩, _, if_pos rfl⟩
    · refine .inr ⟨?_, if_neg h⟩
      rintro ⟨b, hsensitive, hignore⟩
      cases hsensitive
      cases hignore
      exact h rfl
  | some sensitive, none => exact .inr ⟨nofun, rfl⟩
  | none, some ignore => exact .inr ⟨nofun, rfl⟩
  | none, none => exact .inr ⟨nofun, rfl⟩

/-- What a text match is read as from an object. -/
theorem ofDocument_object {entries : List (String × Document)} (hkeys : (entries.map Prod.fst).Nodup)
    (hskips : ∀ e ∈ entries, e.2.skip = .ok ()) {value : String}
    (hvalue : entries.lookup "value" = some (.string value)) {caseSensitive ignoreCase : Option Bool}
    (hsensitive : Flag entries "case_sensitive" caseSensitive) (hignore : Flag entries "ignore_case" ignoreCase) :
    ofDocument (.object (entries.map fun e => (.name e.1, e.2)) .closed) = ofFlags value caseSensitive ignoreCase := by
  have hsuits : Suits entries {} := by
    refine ⟨hkeys, fun h => ⟨rfl, ?_⟩, fun h => ⟨rfl, hsensitive.suits h⟩, fun h => ⟨rfl, hignore.suits h⟩, hskips⟩
    rw [hvalue] at h
    cases h
    exact ⟨value, rfl⟩
  have htext : (({} : Parts).after entries).value = some value := by
    simp [Parts.after, hvalue, text?]
  rw [ofDocument, Form.record_closed hsuits.members]
  show (Form.required (({} : Parts).after entries).value >>= fun value => ofFlags value
    ((({} : Parts).after entries).caseSensitive.getD none) ((({} : Parts).after entries).ignoreCase.getD none)) = _
  rw [htext, Parts.after, hsensitive.getD_after, hignore.getD_after]
  rfl

end TextMatch

end AttributeRelease
