import AttributeRelease.Filter.Release

/-!
Which values are released. The rules are gone through once for every value, and a rule that could
change nothing is skipped; in the end a value has been permitted or denied exactly if some rule of an
active policy does so, whatever was skipped on the way.
-/

namespace AttributeRelease

namespace Filter

/-- A rule that releases a value: a failing matcher releases nothing. -/
def Grants (ctx : Context) (v : Value) (rule : Rule) : Prop :=
  rule.effect = .permit ∧ rule.matcher.test v ctx = .ok true

/-- A rule that withholds a value: a failing matcher withholds it as well. -/
def Withholds (ctx : Context) (v : Value) (rule : Rule) : Prop :=
  rule.effect = .deny ∧ (rule.matcher.test v ctx = .ok true ∨ ∃ e, rule.matcher.test v ctx = .error e)

theorem consider_permitted_iff (ctx : Context) (v : Value) (verdict : Verdict) (rule : Rule) :
    (verdict.consider ctx v rule).permitted = true ↔ verdict.permitted = true ∨ Grants ctx v rule := by
  unfold Verdict.consider Grants
  cases rule.effect with
  | permit =>
    by_cases hpermitted : verdict.permitted = true
    · simp [hpermitted]
    · cases rule.matcher.test v ctx <;> simp [hpermitted]
  | deny =>
    by_cases hdenied : verdict.denied = true
    · simp [hdenied]
    · cases rule.matcher.test v ctx <;> simp [hdenied]

theorem consider_denied_iff (ctx : Context) (v : Value) (verdict : Verdict) (rule : Rule) :
    (verdict.consider ctx v rule).denied = true ↔ verdict.denied = true ∨ Withholds ctx v rule := by
  unfold Verdict.consider Withholds
  cases rule.effect with
  | permit =>
    by_cases hpermitted : verdict.permitted = true
    · simp [hpermitted]
    · cases rule.matcher.test v ctx <;> simp [hpermitted]
  | deny =>
    by_cases hdenied : verdict.denied = true
    · simp [hdenied]
    · cases rule.matcher.test v ctx <;> simp [hdenied]

/-- What rules have said remains said. -/
theorem foldl_consider_iff (ctx : Context) (v : Value) (rules : List Rule) (verdict : Verdict) :
    ((rules.foldl (Verdict.consider ctx v) verdict).permitted = true ↔
      verdict.permitted = true ∨ ∃ rule ∈ rules, Grants ctx v rule) ∧
    ((rules.foldl (Verdict.consider ctx v) verdict).denied = true ↔
      verdict.denied = true ∨ ∃ rule ∈ rules, Withholds ctx v rule) := by
  induction rules generalizing verdict with
  | nil => simp
  | cons rule rest ih =>
    obtain ⟨hpermitted, hdenied⟩ := ih (verdict.consider ctx v rule)
    rw [List.foldl_cons, hpermitted, hdenied, consider_permitted_iff, consider_denied_iff]
    simp only [List.mem_cons, exists_eq_or_imp, or_assoc, and_self]

theorem judge_releases_iff (ctx : Context) (rules : List Rule) (v : Value) :
    (judge ctx rules v).releases = true ↔
      (∃ rule ∈ rules, Grants ctx v rule) ∧ ¬ ∃ rule ∈ rules, Withholds ctx v rule := by
  obtain ⟨hpermitted, hdenied⟩ := foldl_consider_iff ctx v rules {}
  rw [Verdict.releases, Bool.and_eq_true, Bool.not_eq_true', Bool.eq_false_iff, judge, hpermitted,
    ne_eq, hdenied]
  simp

/-- Some policy whose requirement is met has a rule of this kind for the attribute. -/
def SomeRule (f : Filter) (ctx : Context) (key : String) (kind : Rule → Prop) : Prop :=
  ∃ p ∈ f.policies, p.requirement.test ctx = .ok true ∧ ∃ rule ∈ p.rules, rule.key = key ∧ kind rule

theorem isActive_iff (ctx : Context) (p : Policy) : isActive ctx p = true ↔ p.requirement.test ctx = .ok true := by
  unfold isActive
  cases p.requirement.test ctx <;> simp

theorem exists_mem_rulesFor_iff (f : Filter) (ctx : Context) (key : String) (kind : Rule → Prop) :
    (∃ rule ∈ rulesFor (f.active ctx) key, kind rule) ↔ SomeRule f ctx key kind := by
  simp only [rulesFor, active, List.mem_filter, List.mem_flatMap, isActive_iff, decide_eq_true_eq, SomeRule]
  constructor
  · rintro ⟨rule, ⟨⟨p, ⟨hp, hmet⟩, hrule⟩, hkey⟩, hkind⟩
    exact ⟨p, hp, hmet, rule, hrule, hkey, hkind⟩
  · rintro ⟨p, hp, hmet, rule, hrule, hkey, hkind⟩
    exact ⟨rule, ⟨⟨p, ⟨hp, hmet⟩, hrule⟩, hkey⟩, hkind⟩

theorem release_get? (f : Filter) (attributes : AttributeMap) (request : Request) (key : String) :
    (f.release attributes request).attributes.get? key =
      ((attributes.get? key).map fun a => a.retain fun v =>
        (judge ⟨request, attributes⟩ (rulesFor (f.active ⟨request, attributes⟩) key) v).releases).filter
          (!·.isEmpty) := by
  simp only [release, Keyed.get?_filter, Keyed.get?_mapValues]

theorem release_get?_eq_some_iff (f : Filter) (attributes : AttributeMap) (request : Request) (key : String)
    (released : Attribute) :
    (f.release attributes request).attributes.get? key = some released ↔
      ∃ a, attributes.get? key = some a ∧ released.values ≠ [] ∧ released = a.retain fun v =>
        (judge ⟨request, attributes⟩ (rulesFor (f.active ⟨request, attributes⟩) key) v).releases := by
  rw [release_get?, Option.filter_eq_some_iff]
  simp only [Option.map_eq_some_iff, Attribute.isEmpty, Bool.not_eq_true', List.isEmpty_eq_false_iff]
  constructor
  · rintro ⟨⟨a, ha, rfl⟩, hvalues⟩
    exact ⟨a, ha, hvalues, rfl⟩
  · rintro ⟨a, ha, hvalues, rfl⟩
    exact ⟨⟨a, ha, rfl⟩, hvalues⟩

theorem mem_retain_judge_iff (f : Filter) (ctx : Context) (key : String) (a : Attribute) (v : Value) :
    v ∈ (a.retain fun v => (judge ctx (rulesFor (f.active ctx) key) v).releases).values ↔
      v ∈ a.values ∧ SomeRule f ctx key (Grants ctx v) ∧ ¬ SomeRule f ctx key (Withholds ctx v) := by
  rw [Attribute.retain, List.mem_filter, judge_releases_iff, exists_mem_rulesFor_iff, exists_mem_rulesFor_iff]

/-- **Default deny.** A value is released exactly if a rule of an active policy grants it and none
withholds it, all judged by the attributes as they came. Nothing else is in what is released: every
attribute there has the id of the one it comes from and some of its values, in their order. The
active policies are those whose requirement is met, in their order. -/
theorem release_default_deny (f : Filter) (attributes : AttributeMap) (request : Request) :
    (∀ key a v, attributes.get? key = some a → v ∈ a.values →
      ((∃ released, (f.release attributes request).attributes.get? key = some released ∧ v ∈ released.values) ↔
        SomeRule f ⟨request, attributes⟩ key (Grants ⟨request, attributes⟩ v) ∧
          ¬ SomeRule f ⟨request, attributes⟩ key (Withholds ⟨request, attributes⟩ v))) ∧
    (∀ key released, (f.release attributes request).attributes.get? key = some released →
      released.values ≠ [] ∧ ∃ a, attributes.get? key = some a ∧ released.id = a.id ∧
        released.values.Sublist a.values) ∧
    ∃ met : List Policy, (f.release attributes request).activePolicies = met.map Policy.id ∧ met.Sublist f.policies ∧
      ∀ p, p ∈ met ↔ p ∈ f.policies ∧ p.requirement.test ⟨request, attributes⟩ = .ok true := by
  refine ⟨fun key a v ha hv => ?_, fun key released hreleased => ?_, ?_⟩
  · constructor
    · rintro ⟨released, hreleased, hmem⟩
      obtain ⟨a', ha', -, rfl⟩ := (release_get?_eq_some_iff f attributes request key released).1 hreleased
      exact ((mem_retain_judge_iff f _ key a' v).1 hmem).2
    · intro hdisclosed
      have hmem := (mem_retain_judge_iff f ⟨request, attributes⟩ key a v).2 ⟨hv, hdisclosed⟩
      exact ⟨_, (release_get?_eq_some_iff f attributes request key _).2
        ⟨a, ha, List.ne_nil_of_mem hmem, rfl⟩, hmem⟩
  · obtain ⟨a, ha, hvalues, rfl⟩ := (release_get?_eq_some_iff f attributes request key released).1 hreleased
    exact ⟨hvalues, a, ha, rfl, List.filter_sublist⟩
  · refine ⟨f.active ⟨request, attributes⟩, rfl, List.filter_sublist, fun p => ?_⟩
    rw [active, List.mem_filter, isActive_iff]

end Filter

end AttributeRelease
