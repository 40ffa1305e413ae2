import AttributeRelease.Attribute.Basic
import Mathlib.Data.List.Basic
import Mathlib.Data.List.Induction

/-!
What comes of merging attributes. Values that come again are dropped, so that what values are appended to in turn
holds all of them, each at its first appearance. And a map that attributes are merged into has under each id the
values of all attributes of that id, in their order.
-/

namespace AttributeRelease

theorem nodup_eraseDups {α : Type} [DecidableEq α] : ∀ values : List α, values.eraseDups.Nodup
  | [] => .nil
  | v :: rest => by
    rw [List.eraseDups_cons]
    refine List.nodup_cons.2 ⟨fun hv => ?_, nodup_eraseDups _⟩
    simp at hv
termination_by values => values.length
decreasing_by exact Nat.lt_succ_of_le (List.length_filter_le _ _)

theorem eraseDups_of_nodup {α : Type} [DecidableEq α] {values : List α} (h : values.Nodup) :
    values.eraseDups = values := by
  induction values with
  | nil => rfl
  | cons v rest ih =>
    obtain ⟨hv, hrest⟩ := List.nodup_cons.1 h
    have hothers : (rest.filter fun w => !w == v) = rest := by
      refine List.filter_eq_self.2 fun w hw => ?_
      have hne : w ≠ v := fun heq => hv (heq ▸ hw)
      simpa using hne
    rw [List.eraseDups_cons, hothers, ih hrest]

theorem eraseDups_concat {α : Type} [DecidableEq α] (values : List α) (v : α) :
    (values ++ [v]).eraseDups = if v ∈ values then values.eraseDups else values.eraseDups ++ [v] := by
  rw [List.eraseDups_append]
  by_cases hv : v ∈ values <;> simp [List.removeAll, hv, List.eraseDups_cons]

/-- Values that are taken out are taken out at all their places. -/
theorem filter_eraseDups {α : Type} [DecidableEq α] (p : α → Bool) (values : List α) :
    values.eraseDups.filter p = (values.filter p).eraseDups := by
  induction values using List.reverseRecOn with
  | nil => rfl
  | append_singleton values v ih =>
    rw [eraseDups_concat, List.filter_append]
    by_cases hp : p v <;> by_cases hv : v ∈ values <;> simp [hp, hv, ih, eraseDups_concat]

/-- Values stand in the order of their first appearances. -/
theorem pairwise_idxOf_eraseDups {α : Type} [DecidableEq α] (values : List α) :
    values.eraseDups.Pairwise fun v w => values.idxOf v < values.idxOf w := by
  induction values using List.reverseRecOn with
  | nil => exact .nil
  | append_singleton values v ih =>
    have hfirst : ∀ w ∈ values, (values ++ [v]).idxOf w = values.idxOf w := fun w hw => List.idxOf_append_of_mem hw
    have hbefore : values.eraseDups.Pairwise fun u w => (values ++ [v]).idxOf u < (values ++ [v]).idxOf w := by
      refine ih.imp_of_mem fun {u w} hu hw hlt => ?_
      rwa [hfirst u (List.mem_eraseDups.1 hu), hfirst w (List.mem_eraseDups.1 hw)]
    rw [eraseDups_concat]
    split
    · exact hbefore
    · next hv =>
      refine List.pairwise_append.2 ⟨hbefore, List.pairwise_singleton _ _, fun u hu w hw => ?_⟩
      obtain rfl := List.mem_singleton.1 hw
      have hmem := List.mem_eraseDups.1 hu
      have hlt := List.idxOf_lt_length_of_mem hmem
      rw [hfirst u hmem, List.idxOf_append_of_notMem hv]
      omega

theorem foldl_appendNew {α : Type} [DecidableEq α] (values more : List α) :
    more.foldl (fun vs v => if v ∈ vs then vs else vs ++ [v]) values =
      values ++ (more.filter (· ∉ values)).eraseDups := by
  induction more generalizing values with
  | nil => simp
  | cons v rest ih =>
    rw [List.foldl_cons, ih]
    by_cases hv : v ∈ values
    · simp [hv]
    · have hrest : (rest.filter (· ∉ values)).filter (fun w => !w == v) = rest.filter (· ∉ values ++ [v]) := by
        rw [List.filter_filter]
        refine List.filter_congr fun w _ => ?_
        by_cases hw : w = v <;> simp [hw]
      rw [if_neg hv, List.filter_cons_of_pos (by simpa using hv), List.eraseDups_cons, hrest, List.append_assoc,
        List.singleton_append]

theorem appendAllNew_eq (values more : List Value) :
    appendAllNew values more = values ++ (more.filter (· ∉ values)).eraseDups := foldl_appendNew values more

theorem appendAllNew_nil (more : List Value) : appendAllNew [] more = more.eraseDups := by
  rw [appendAllNew_eq, List.nil_append, List.filter_eq_self.2 fun v _ => by simp]

theorem appendAllNew_append (values more more' : List Value) :
    appendAllNew values (more ++ more') = appendAllNew (appendAllNew values more) more' :=
  List.foldl_append

theorem appendAllNew_eraseDups (values more : List Value) :
    appendAllNew values.eraseDups more = (values ++ more).eraseDups := by
  rw [← appendAllNew_nil, ← appendAllNew_append, appendAllNew_nil]

/-- What is appended to nothing part by part holds all parts, in their order. -/
theorem foldl_appendAllNew {α : Type} (f : α → List Value) (parts : List α) :
    parts.foldl (fun values part => appendAllNew values (f part)) [] = (parts.flatMap f).eraseDups := by
  rw [← appendAllNew_nil, appendAllNew, List.foldl_flatMap]
  rfl

namespace Attribute

theorem ext_values {a b : Attribute} (hid : a.id = b.id) (hvalues : a.values = b.values) : a = b := by
  obtain ⟨id, values, _⟩ := a
  obtain ⟨id', values', _⟩ := b
  obtain rfl : id = id' := hid
  obtain rfl : values = values' := hvalues
  rfl

theorem values_ofValues (id : String) (values : List Value) : (ofValues id values).values = values.eraseDups :=
  appendAllNew_nil values

/-- An attribute made again of its values is the same. -/
theorem ofValues_values (a : Attribute) : ofValues a.id a.values = a :=
  ext_values rfl ((values_ofValues _ _).trans (eraseDups_of_nodup a.values_nodup))

end Attribute

namespace AttributeMap

/-- Every attribute stands under its id. -/
def IsKeyed (m : AttributeMap) : Prop := ∀ e ∈ m.entries, e.2.id = e.1

instance (m : AttributeMap) : Decidable m.IsKeyed := inferInstanceAs (Decidable (∀ e ∈ m.entries, e.2.id = e.1))

theorem isKeyed_iff {m : AttributeMap} : m.IsKeyed ↔ ∀ key a, m.get? key = some a → a.id = key := by
  constructor
  · intro h key a ha
    exact h _ (Keyed.get?_eq_some_iff.1 ha)
  · intro h e he
    exact h e.1 e.2 (Keyed.get?_eq_some_iff.2 he)

theorem isKeyed_empty : IsKeyed .empty := nofun

/-- The attribute of an id is the only one of that id. -/
theorem IsKeyed.filter_values {m : AttributeMap} (h : m.IsKeyed) (key : String) :
    m.values.filter (·.id = key) = (m.get? key).toList := by
  obtain ⟨entries, hnodup⟩ := m
  change (entries.map Prod.snd).filter _ = (entries.lookup key).toList
  replace h : ∀ e ∈ entries, e.2.id = e.1 := h
  induction entries with
  | nil => rfl
  | cons e rest ih =>
    obtain ⟨k, a⟩ := e
    have hid : a.id = k := h (k, a) List.mem_cons_self
    obtain ⟨hk, hrest⟩ := List.nodup_cons.1 hnodup
    have hrests := ih hrest fun e he => h e (List.mem_cons_of_mem _ he)
    by_cases hkey : key = k
    · subst hkey
      have hnone : rest.lookup key = none := by
        rw [Option.eq_none_iff_forall_ne_some]
        intro b hb
        exact hk (List.mem_map.2 ⟨_, (Keyed.lookup_eq_some_iff hrest).1 hb, rfl⟩)
      rw [hnone] at hrests
      rw [List.map_cons, List.filter_cons_of_pos (by simpa using hid), hrests]
      simp
    · have hne : ¬ a.id = key := fun heq => hkey (heq.symm.trans hid)
      rw [Keyed.lookup_cons_of_ne hkey, ← hrests, List.map_cons, List.filter_cons_of_neg (by simpa using hne)]

/-! ### Merging -/

/-- The values of an attribute; there are none if there is no such attribute. -/
def valuesOf (m : AttributeMap) (key : String) : List Value := ((m.get? key).map Attribute.values).getD []

@[simp] theorem valuesOf_empty (key : String) : valuesOf .empty key = [] := rfl

theorem valuesOf_of_get? {m : AttributeMap} {key : String} {a : Attribute} (h : m.get? key = some a) :
    m.valuesOf key = a.values := by
  rw [valuesOf, h]
  rfl

theorem valuesOf_merge (m : AttributeMap) (a : Attribute) (key : String) :
    (m.merge a).valuesOf key = if a.id = key then appendAllNew (m.valuesOf key) a.values else m.valuesOf key := by
  rw [valuesOf, merge, Keyed.get?_alter]
  by_cases hkey : key = a.id
  · subst hkey
    rw [if_pos rfl, if_pos rfl, valuesOf]
    cases m.get? a.id with
    | none => rfl
    | some old => rfl
  · rw [if_neg hkey, if_neg fun heq => hkey heq.symm, valuesOf]

theorem valuesOf_foldl_merge (attributes : List Attribute) (m : AttributeMap) (key : String) :
    (attributes.foldl merge m).valuesOf key =
      appendAllNew (m.valuesOf key) ((attributes.filter (·.id = key)).flatMap Attribute.values) := by
  induction attributes generalizing m with
  | nil => rfl
  | cons a rest ih =>
    rw [List.foldl_cons, ih, valuesOf_merge]
    by_cases hkey : a.id = key
    · rw [if_pos hkey, List.filter_cons_of_pos (by simpa using hkey), List.flatMap_cons, appendAllNew_append]
    · rw [if_neg hkey, List.filter_cons_of_neg (by simpa using hkey)]

theorem IsKeyed.merge {m : AttributeMap} (h : m.IsKeyed) (a : Attribute) : (m.merge a).IsKeyed := by
  rw [isKeyed_iff] at h ⊢
  intro key b hb
  rw [AttributeMap.merge, Keyed.get?_alter] at hb
  by_cases hkey : key = a.id
  · rw [if_pos hkey] at hb
    obtain rfl := Option.some.inj hb
    rw [hkey]
    cases hold : m.get? a.id with
    | none => rfl
    | some old => exact h a.id old hold
  · rw [if_neg hkey] at hb
    exact h key b hb

theorem IsKeyed.foldl_merge {m : AttributeMap} (h : m.IsKeyed) (attributes : List Attribute) :
    (attributes.foldl AttributeMap.merge m).IsKeyed := by
  induction attributes generalizing m with
  | nil => exact h
  | cons a rest ih => exact ih (h.merge a)

theorem isSome_get?_foldl_merge (attributes : List Attribute) (m : AttributeMap) (key : String) :
    ((attributes.foldl merge m).get? key).isSome ↔ (m.get? key).isSome ∨ ∃ a ∈ attributes, a.id = key := by
  induction attributes generalizing m with
  | nil => simp
  | cons a rest ih =>
    rw [List.foldl_cons, ih, merge, Keyed.get?_alter, List.exists_mem_cons_iff]
    by_cases hkey : key = a.id
    · simp [hkey]
    · simp [hkey, Ne.symm hkey]

/-- What is merged has an attribute for each id that one of the attributes has, with the values of all that have it. -/
theorem get?_foldl_merge_iff (attributes : List Attribute) (key : String) (a : Attribute) :
    (attributes.foldl merge .empty).get? key = some a ↔
      (∃ b ∈ attributes, b.id = key) ∧ a.id = key ∧
        a.values = ((attributes.filter (·.id = key)).flatMap Attribute.values).eraseDups := by
  have hmerged := valuesOf_foldl_merge attributes .empty key
  rw [valuesOf_empty, appendAllNew_nil] at hmerged
  have hkeyed := isKeyed_iff.1 (isKeyed_empty.foldl_merge attributes)
  have hsome : ((attributes.foldl merge .empty).get? key).isSome ↔ ∃ b ∈ attributes, b.id = key := by
    simp [isSome_get?_foldl_merge]
  rw [← hmerged, ← hsome, Option.isSome_iff_exists]
  constructor
  · intro ha
    exact ⟨⟨a, ha⟩, hkeyed key a ha, (valuesOf_of_get? ha).symm⟩
  · rintro ⟨⟨b, hb⟩, hid, hsame⟩
    rw [valuesOf_of_get? hb] at hsame
    rw [hb, Attribute.ext_values (hid.trans (hkeyed key b hb).symm) hsame]

/-- **What is merged has under each id the values of all attributes of that id, each at its first appearance.** -/
theorem get?_foldl_merge (attributes : List Attribute) (key : String) (a : Attribute) (hvalues : a.values ≠ []) :
    (attributes.foldl merge .empty).get? key = some a ↔
      a.id = key ∧ a.values = ((attributes.filter (·.id = key)).flatMap Attribute.values).eraseDups := by
  rw [get?_foldl_merge_iff, and_iff_right_of_imp]
  rintro ⟨-, hsame⟩
  -- there is a value, and it comes from one of the attributes
  obtain ⟨v, hv⟩ := List.exists_mem_of_ne_nil _ hvalues
  rw [hsame, List.mem_eraseDups, List.mem_flatMap] at hv
  obtain ⟨b, hb, -⟩ := hv
  rw [List.mem_filter, decide_eq_true_iff] at hb
  exact ⟨b, hb⟩

end AttributeMap

end AttributeRelease
