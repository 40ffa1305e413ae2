import AttributeRelease.Proofs.Form.RoundTrips

/-!
What operations make of an attribute. It is made empty, of values, of texts or from a JSON text, and then values are put
in and taken out and it gets other ids, any number of times. It holds what was put in and not taken out since, each
value once and in the order in which they were first put in. Values of different kinds are different values, also where
they are shown alike.
-/

namespace AttributeRelease.Attribute

/-- Operations made an attribute, and `kept` is what they put in and did not take out since, in order and with
repetitions. -/
inductive Made : (a : Attribute) → (kept : List Value) → Prop
  | empty (id : String) : Made (empty id) []
  | ofValues (id : String) (values : List Value) : Made (ofValues id values) values
  | ofStrings (id : String) (texts : List String) : Made (ofStrings id texts) (texts.map .string)
  | ofText {text : String} {a : Attribute} {values : List Value} (hread : ofText text = .ok a)
    (hlists : Lists (Json.readText text).document values) : Made a values
  | offer {a : Attribute} {kept : List Value} (h : Made a kept) (v : Value) : Made (a.offer v).2 (kept ++ [v])
  | extend {a : Attribute} {kept : List Value} (h : Made a kept) (values : List Value) :
    Made (a.extend values) (kept ++ values)
  | retain {a : Attribute} {kept : List Value} (h : Made a kept) (p : Value → Bool) : Made (a.retain p) (kept.filter p)
  | rename {a : Attribute} {kept : List Value} (h : Made a kept) (id : String) : Made (a.rename id) kept

variable {a : Attribute} {v : Value} {kept : List Value}

theorem offer_of_mem (h : v ∈ a.values) : a.offer v = (false, a) := if_pos h

theorem offer_of_notMem (h : v ∉ a.values) : a.offer v = (true, a.push v) := if_neg h

theorem values_push_of_notMem (h : v ∉ a.values) : (a.push v).values = a.values ++ [v] := if_neg h

/-- One value is added like a list of one. -/
theorem values_offer (a : Attribute) (v : Value) : (a.offer v).2.values = appendAllNew a.values [v] := by
  by_cases hv : v ∈ a.values
  · rw [offer_of_mem hv, appendAllNew, List.foldl_cons, appendNew, if_pos hv, List.foldl_nil]
  · rw [offer_of_notMem hv]
    rfl

theorem extend_extend (a : Attribute) (values more : List Value) :
    (a.extend values).extend more = a.extend (values ++ more) :=
  ext_values rfl (appendAllNew_append _ _ _).symm

theorem exists_made_of_ofText {text : String} (h : ofText text = .ok a) : ∃ values, Made a values := by
  obtain ⟨values, hlists, -⟩ := values_of_ofDocument (Form.of_ofText h)
  exact ⟨values, .ofText h hlists⟩

theorem Made.values_eq (h : Made a kept) : a.values = kept.eraseDups := by
  induction h with
  | empty id => rfl
  | ofValues id values => exact values_ofValues id values
  | ofStrings id texts => exact values_ofValues id _
  | ofText hread hlists => exact hlists.values_eq (Form.of_ofText hread)
  | offer _ v ih => rw [values_offer, ih, appendAllNew_eraseDups]
  | @extend a kept _ values ih =>
    calc (a.extend values).values
      _ = appendAllNew a.values values := rfl
      _ = (kept ++ values).eraseDups := by rw [ih, appendAllNew_eraseDups]
  | @retain a kept _ p ih =>
    calc (a.retain p).values
      _ = a.values.filter p := rfl
      _ = (kept.filter p).eraseDups := by rw [ih, filter_eraseDups]
  | rename _ id ih => exact ih

/-- **Values stand once, where they were first put in.** Whatever operations made an attribute, it holds what they put
in and did not take out since, each value once and in the order in which they were first put in; every text that is
accepted begins such a history. A value that is offered is added at the end if it was not there, which is what is
answered, and changes nothing if it was. What is made of values holds each at its first appearance, and an attribute
that is made again of its values is the same. Two lists that are put in one after the other are put in as one. -/
theorem values_stand_where_first_put_in :
    (∀ (a : Attribute) kept, Made a kept → a.values.Nodup ∧ a.values = kept.eraseDups ∧
      a.values.Pairwise fun v w => kept.idxOf v < kept.idxOf w) ∧
    (∀ text (a : Attribute), ofText text = .ok a → ∃ values, Made a values) ∧
    (∀ (a : Attribute) v, ((a.offer v).1 = true ↔ v ∉ a.values) ∧
      (v ∉ a.values → (a.offer v).2.id = a.id ∧ (a.offer v).2.values = a.values ++ [v]) ∧
      (v ∈ a.values → (a.offer v).2 = a)) ∧
    (∀ id values, (ofValues id values).id = id ∧ (ofValues id values).values = values.eraseDups) ∧
    (∀ a : Attribute, ofValues a.id a.values = a) ∧
    ∀ (a : Attribute) values more, (a.extend values).extend more = a.extend (values ++ more) := by
  refine ⟨fun a kept h => ?_, fun _ _ => exists_made_of_ofText, fun a v => ?_, fun id values => ?_, ofValues_values,
    extend_extend⟩
  · rw [h.values_eq]
    exact ⟨nodup_eraseDups kept, rfl, pairwise_idxOf_eraseDups kept⟩
  · by_cases hv : v ∈ a.values
    · rw [offer_of_mem hv]
      simp [hv]
    · rw [offer_of_notMem hv]
      simp only [hv, not_false_eq_true, iff_self, true_and, forall_const, false_imp_iff, and_true]
      exact ⟨rfl, values_push_of_notMem hv⟩
  · exact ⟨rfl, values_ofValues id values⟩

/-! A text that lists a scoped value twice, and a value that reads the same. The scoped value is taken out and comes
again behind what was put in meanwhile. -/

namespace Alike

def member : Value := .string "member"

def staff : Value := .scoped "staff" "example.org"

def staffText : Value := .string "staff@example.org"

def listing : Json :=
  .object [("id", .string "affiliation"), ("values", .array ([staff, staffText, staff].map Value.written))]

def affiliation : Attribute := ofValues "affiliation" [staff, staffText, staff]

def role : Attribute :=
  (((affiliation.retain (· ≠ staff)).offer member).2.extend [staffText, staff]).rename "role"

theorem isWhole_listing : listing.IsWhole := ⟨trivial, Json.areWhole_map Value.isWhole_written _, trivial⟩

theorem made_affiliation : Made affiliation [staff, staffText, staff] := by
  refine .ofText (Form.ofText_toText isWhole_listing (ofDocument_listing _ _)) ?_
  rw [Json.readText_toText isWhole_listing]
  exact .member (List.mem_cons_of_mem _ List.mem_cons_self) (list_written _)

theorem made_role : Made role [staffText, member, staffText, staff] :=
  (((made_affiliation.retain (· ≠ staff)).offer member).extend [staffText, staff]).rename "role"

theorem values_stand_where_first_put_in_of_role :
    staff.display = staffText.display ∧ role.values = [staffText, member, staff] :=
  ⟨rfl, (values_stand_where_first_put_in.1 role _ made_role).2.1.trans (by decide)⟩

end Alike

end AttributeRelease.Attribute
