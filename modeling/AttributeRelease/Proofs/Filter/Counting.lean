import AttributeRelease.Proofs.Filter.Independence
import Mathlib.Data.List.Nodup
import Mathlib.Data.List.Perm.Basic

/-!
How many failures a filter reports. A rule that can change nothing any more is not tried, so its failure does not count:
of the rules that permit, those behind the first that grants the value, and of the rules that deny, those behind the
first that does not let it pass, as that one settles the matter even if it fails. The number therefore depends on the
order of the rules, while what is released does not.
-/

namespace AttributeRelease

namespace Filter

variable {ctx : Context} {v : Value}

/-- A test came to no answer. -/
def errs (x : Except FilterError Bool) : Bool := !x.isOk

@[simp] theorem errs_ok (b : Bool) : errs (.ok b) = false := rfl

@[simp] theorem errs_error (e : FilterError) : errs (.error e) = true := rfl

/-- The failures of permitting rules: of those before the first that grants the value. -/
def permitFailures (ctx : Context) (v : Value) (rules : List Rule) : Nat :=
  ((rules.filter (·.effect = .permit)).takeWhile (·.matcher.test v ctx ≠ .ok true)).countP
    fun rule => errs (rule.matcher.test v ctx)

/-- The failures of denying rules: the first that does not let the value pass may be one. -/
def denyFailures (ctx : Context) (v : Value) (rules : List Rule) : Nat :=
  if ((rules.filter (·.effect = .deny)).find? (·.matcher.test v ctx ≠ .ok false)).any
      fun rule => errs (rule.matcher.test v ctx) then 1 else 0

theorem permitFailures_cons (rule : Rule) (rest : List Rule) :
    permitFailures ctx v (rule :: rest) =
      if rule.effect = .permit then
        if rule.matcher.test v ctx = .ok true then 0
        else permitFailures ctx v rest + if errs (rule.matcher.test v ctx) then 1 else 0
      else permitFailures ctx v rest := by
  by_cases heffect : rule.effect = .permit
  · by_cases hgrants : rule.matcher.test v ctx = .ok true
    · simp [permitFailures, heffect, hgrants]
    · simp [permitFailures, heffect, hgrants, List.countP_cons]
  · simp [permitFailures, heffect]

theorem denyFailures_cons (rule : Rule) (rest : List Rule) :
    denyFailures ctx v (rule :: rest) =
      if rule.effect = .deny then
        if rule.matcher.test v ctx = .ok false then denyFailures ctx v rest
        else if errs (rule.matcher.test v ctx) then 1 else 0
      else denyFailures ctx v rest := by
  by_cases heffect : rule.effect = .deny
  · by_cases hpasses : rule.matcher.test v ctx = .ok false
    · simp [denyFailures, heffect, hpasses]
    · simp [denyFailures, heffect, hpasses]
  · simp [denyFailures, heffect]

/-- What has failed so far, and what is still to fail: nothing of a kind that is settled. -/
theorem foldl_consider_failures (rules : List Rule) (verdict : Verdict) :
    (rules.foldl (Verdict.consider ctx v) verdict).failures =
      verdict.failures + (if verdict.permitted then 0 else permitFailures ctx v rules) +
        (if verdict.denied then 0 else denyFailures ctx v rules) := by
  induction rules generalizing verdict with
  | nil => simp [permitFailures, denyFailures]
  | cons rule rest ih =>
    rw [List.foldl_cons, ih, permitFailures_cons, denyFailures_cons, Verdict.consider]
    cases heffect : rule.effect with
    | permit =>
      by_cases hpermitted : verdict.permitted = true
      · simp [hpermitted]
      · cases htest : rule.matcher.test v ctx with
        | ok hit => cases hit <;> simp [hpermitted]
        | error e => simp [hpermitted]; omega
    | deny =>
      by_cases hdenied : verdict.denied = true
      · simp [hdenied]
      · cases htest : rule.matcher.test v ctx with
        | ok hit => cases hit <;> simp [hdenied]
        | error e => simp [hdenied]; omega

theorem judge_failures (rules : List Rule) :
    (judge ctx rules v).failures = permitFailures ctx v rules + denyFailures ctx v rules := by
  rw [judge, foldl_consider_failures]
  simp

theorem requirementFails_eq_errs (ctx : Context) :
    requirementFails ctx = fun p => errs (p.requirement.test ctx) := by
  funext p
  rw [requirementFails]
  cases p.requirement.test ctx <;> rfl

theorem total_perm {ns ns' : List Nat} (h : ns.Perm ns') : total ns = total ns' := h.foldr_eq 0

theorem release_failures (f : Filter) {attributes : AttributeMap} (request : Request)
    {entries : List (String × Attribute)} (h : entries.Perm attributes.entries) :
    (f.release attributes request).failures =
      f.policies.countP (fun p => errs (p.requirement.test ⟨request, attributes⟩)) +
        total (entries.map fun e => total (e.2.values.map fun v =>
          permitFailures ⟨request, attributes⟩ v (rulesFor (f.active ⟨request, attributes⟩) e.1) +
            denyFailures ⟨request, attributes⟩ v (rulesFor (f.active ⟨request, attributes⟩) e.1))) := by
  rw [release_eq, List.countP_eq_length_filter, requirementFails_eq_errs, total_perm (h.map _)]
  simp only [verdict, judge_failures]

end Filter

/-- A policy with its rules in another order. -/
structure Policy.Reorders (p p' : Policy) : Prop where
  id : p'.id = p.id
  requirement : p'.requirement = p.requirement
  rules : p.rules.Perm p'.rules

namespace Filter

/-- A filter with its policies, and the rules in each of them, in another order. -/
def Reorders (f f' : Filter) : Prop :=
  ∃ policies, List.Forall₂ Policy.Reorders f.policies policies ∧ policies.Perm f'.policies

theorem Reorders.someRule_iff {f f' : Filter} (h : f.Reorders f') (ctx : Context) (key : String) (kind : Rule → Prop) :
    SomeRule f ctx key kind ↔ SomeRule f' ctx key kind := by
  obtain ⟨policies, hpolicies, hperm⟩ := h
  constructor
  · rintro ⟨p, hp, hmet, rule, hrule, hkind⟩
    obtain ⟨p', hp', hreorders⟩ := exists_rel_right hpolicies hp
    exact ⟨p', hperm.subset hp', hreorders.requirement ▸ hmet, rule, hreorders.rules.subset hrule, hkind⟩
  · rintro ⟨p', hp', hmet, rule, hrule, hkind⟩
    obtain ⟨p, hp, hreorders⟩ := exists_rel_right hpolicies.flip (hperm.symm.subset hp')
    exact ⟨p, hp, hreorders.requirement ▸ hmet, rule, hreorders.rules.symm.subset hrule, hkind⟩

theorem permits_iff (f : Filter) (ctx : Context) (key : String) (v : Value) :
    f.permits ctx key v = true ↔ SomeRule f ctx key (Grants ctx v) ∧ ¬ SomeRule f ctx key (Withholds ctx v) := by
  rw [permits, judge_releases_iff, exists_mem_rulesFor_iff, exists_mem_rulesFor_iff]

theorem Reorders.permits_eq {f f' : Filter} (h : f.Reorders f') (ctx : Context) : f.permits ctx = f'.permits ctx := by
  funext key v
  rw [Bool.eq_iff_iff, permits_iff, permits_iff, h.someRule_iff, h.someRule_iff]

/-- The tests of one's own in a filter, at every depth, reply alike in two circumstances. -/
structure RepliesAlike (ctx ctx' : Context) (f : Filter) : Prop where
  requests : ∀ p, .custom p ∈ f.requirements → p.test ctx = p.test ctx'
  matchers : ∀ p, .custom p ∈ f.matchers → ∀ v, p.test v ctx = p.test v ctx'

theorem RepliesAlike.answersAlike {f : Filter} {request : Request} {attributes attributes' : AttributeMap}
    (h : f.RepliesAlike ⟨request, attributes⟩ ⟨request, attributes'⟩)
    (hsame : ∀ key, attributes.get? key = attributes'.get? key) :
    AnswersAlike ⟨request, attributes⟩ ⟨request, attributes'⟩ f f := by
  refine alike_self (fun p hp => Requirement.AsksAlike.test_eq _ ⟨rfl, ?_, ?_, ?_⟩) ?_
  · intro key m hvalue
    refine ⟨hsame key, fun v => m.test_congr fun custom hcustom => ?_⟩
    exact h.matchers custom (mem_matchers_of_attributeValue hp hvalue hcustom) v
  · exact fun key _ _ _ => hsame key
  · exact fun custom hcustom => h.requests custom (mem_requirements hp hcustom)
  · intro p hp rule hrule v
    exact Matcher.test_congr _ fun custom hcustom => h.matchers custom (mem_matchers_of_rule hp hrule hcustom) v

theorem perm_entries {m m' : AttributeMap} (h : ∀ key, m.get? key = m'.get? key) : m.entries.Perm m'.entries := by
  have hnodup : ∀ m : AttributeMap, m.entries.Nodup := fun m => List.Nodup.of_map Prod.fst m.keys_nodup
  refine (List.perm_ext_iff_of_nodup (hnodup m) (hnodup m')).2 fun e => ?_
  rw [← Keyed.get?_eq_some_iff, ← Keyed.get?_eq_some_iff, h]

theorem RepliesAlike.failures_eq {f : Filter} {request : Request} {attributes attributes' : AttributeMap}
    (h : f.RepliesAlike ⟨request, attributes⟩ ⟨request, attributes'⟩)
    (hsame : ∀ key, attributes.get? key = attributes'.get? key) :
    (f.release attributes request).failures = (f.release attributes' request).failures := by
  have halike := h.answersAlike hsame
  rw [release_eq, release_eq, halike.countFailing_eq, halike.verdict_eq, total_perm ((perm_entries hsame).map _)]

namespace Sample

/-- Permits an address at once and by a rule that always fails, in either order. -/
def twice (rules : List Rule) : Filter where
  policies := [{ id := "p", requirement := .any, rules }]
  ids_nodup := by simp

def always : Rule := { key := "mail", matcher := .any }

def broken : Rule := { key := "mail", matcher := .custom ⟨"broken", fun _ _ => .panics⟩ }

end Sample

/-- **Failures are counted exactly.** A pass reports the requirements that fail and, for every value of every
attribute, the failures of permitting rules before the first that grants it and the failure, if it is one, of the first
denying rule that does not let it pass, in whatever order the attributes are gone through. The order of policies and
rules makes a difference to this number but not to what is released; the order of the attributes makes none, unless a
test of one's own looks at it. -/
theorem failures_counted (f : Filter) (attributes : AttributeMap) (request : Request) :
    (∀ entries : List (String × Attribute), entries.Perm attributes.entries →
      (f.release attributes request).failures =
        f.policies.countP (fun p => errs (p.requirement.test ⟨request, attributes⟩)) +
          total (entries.map fun e => total (e.2.values.map fun v =>
            permitFailures ⟨request, attributes⟩ v (rulesFor (f.active ⟨request, attributes⟩) e.1) +
              denyFailures ⟨request, attributes⟩ v (rulesFor (f.active ⟨request, attributes⟩) e.1)))) ∧
    (∀ f', f.Reorders f' → (f.release attributes request).attributes = (f'.release attributes request).attributes) ∧
    (∃ g g' : Filter, g.Reorders g' ∧ ∃ attributes request,
      (g.release attributes request).failures ≠ (g'.release attributes request).failures) ∧
    ∀ attributes', (∀ key, attributes.get? key = attributes'.get? key) →
      f.RepliesAlike ⟨request, attributes⟩ ⟨request, attributes'⟩ →
      (f.release attributes request).failures = (f.release attributes' request).failures := by
  refine ⟨fun entries h => f.release_failures request h, fun f' h => ?_, ?_,
    fun attributes' hsame h => h.failures_eq hsame⟩
  · rw [release_attributes, release_attributes, h.permits_eq]
  · refine ⟨Sample.twice [Sample.always, Sample.broken], Sample.twice [Sample.broken, Sample.always], ?_,
      Sample.attributes, Sample.request, by decide⟩
    exact ⟨(Sample.twice [Sample.broken, Sample.always]).policies, .cons ⟨rfl, rfl, .swap _ _ _⟩ .nil, .refl _⟩

end Filter

end AttributeRelease
