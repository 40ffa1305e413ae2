import AttributeRelease.Proofs.Filter.Failures

/-!
What a filter makes of the answers of its tests. Of its requirements and matchers nothing counts but what they answer,
and of the circumstances a matcher sees nothing but through tests of one's own. So two filters whose tests answer alike,
each in its own circumstances, have the same policies active and come to the same verdict on every value.
-/

namespace AttributeRelease

open AttributeRelease.Filter (Context conj disj)

namespace Matcher

variable {v : Value} {ctx ctx' : Context}

theorem test_congr : ∀ m : Matcher, (∀ p, .custom p ∈ m.parts → p.test v ctx = p.test v ctx') →
    m.test v ctx = m.test v ctx'
  | .any, _ | .none, _ | .text _, _ | .regex _, _ | .scope _, _ | .scopeRegex _, _ | .scopedText _ _ _, _ => by
    simp only [test]
  | .and children, h => by
    rw [test_and, test_and]
    refine congrArg conj (List.map_congr_left fun m hm => test_congr m fun p hp => h p ?_)
    rw [parts, partsOfAll_eq]
    exact List.mem_cons_of_mem _ (List.mem_flatMap.2 ⟨m, hm, hp⟩)
  | .or children, h => by
    rw [test_or, test_or]
    refine congrArg disj (List.map_congr_left fun m hm => test_congr m fun p hp => h p ?_)
    rw [parts, partsOfAll_eq]
    exact List.mem_cons_of_mem _ (List.mem_flatMap.2 ⟨m, hm, hp⟩)
  | .not child, h => by
    rw [test_not, test_not, test_congr child fun p hp => h p (by simp [parts, hp])]
  | .custom p, h => by
    simp only [test]
    rw [h p (by simp [parts])]

end Matcher

namespace Requirement

/-- What a requirement asks for is the same in two circumstances, at every depth. -/
structure AsksAlike (ctx ctx' : Context) (q : Requirement) : Prop where
  request : ctx.request = ctx'.request
  values : ∀ key m, .attributeValue key m ∈ q.parts →
    ctx.attributes.get? key = ctx'.attributes.get? key ∧ ∀ v, m.test v ctx = m.test v ctx'
  counts : ∀ key least most, .valueCount key least most ∈ q.parts →
    ctx.attributes.get? key = ctx'.attributes.get? key
  customs : ∀ p, .custom p ∈ q.parts → p.test ctx = p.test ctx'

variable {ctx ctx' : Context}

theorem AsksAlike.mono {q q' : Requirement} (h : q.AsksAlike ctx ctx') (hsub : q'.parts ⊆ q.parts) :
    q'.AsksAlike ctx ctx' where
  request := h.request
  values key m hmem := h.values key m (hsub hmem)
  counts key least most hmem := h.counts key least most (hsub hmem)
  customs p hmem := h.customs p (hsub hmem)

theorem someValue_congr {m m' : Matcher} (h : ∀ v, m.test v ctx = m'.test v ctx') (values : List Value) :
    someValue m ctx values = someValue m' ctx' values := by
  rw [someValue_eq, someValue_eq]
  exact congrArg disj (List.map_congr_left fun v _ => h v)

theorem AsksAlike.test_eq : ∀ q : Requirement, q.AsksAlike ctx ctx' → q.test ctx = q.test ctx'
  | .any, h | .none, h | .requester _, h | .requesterRegex _, h | .principal _, h | .principalRegex _, h
  | .metadata _ _, h => by simp only [test, h.request]
  | .attributeValue key m, h => by
    obtain ⟨hget, htest⟩ := h.values key m (by simp [parts])
    simp only [test, hget, someValue_congr htest]
  | .valueCount key least most, h => by
    simp only [test, h.counts key least most (by simp [parts])]
  | .and children, h => by
    rw [test_and, test_and]
    refine congrArg conj (List.map_congr_left fun q hq => AsksAlike.test_eq q (h.mono ?_))
    rw [parts, partsOfAll_eq]
    exact List.subset_cons_of_subset _ fun part hpart => List.mem_flatMap.2 ⟨q, hq, hpart⟩
  | .or children, h => by
    rw [test_or, test_or]
    refine congrArg disj (List.map_congr_left fun q hq => AsksAlike.test_eq q (h.mono ?_))
    rw [parts, partsOfAll_eq]
    exact List.subset_cons_of_subset _ fun part hpart => List.mem_flatMap.2 ⟨q, hq, hpart⟩
  | .not child, h => by
    rw [test_not, test_not, AsksAlike.test_eq child (h.mono ?_)]
    rw [parts.eq_def (.not child)]
    exact List.subset_cons_self _ _
  | .custom p, h => by
    simp only [test]
    rw [h.customs p (by simp [parts])]

end Requirement

/-- Two rules of the same kind for one attribute, with related matchers. -/
structure Rule.Alike (R : Matcher → Matcher → Prop) (rule rule' : Rule) : Prop where
  key : rule'.key = rule.key
  effect : rule'.effect = rule.effect
  matcher : R rule.matcher rule'.matcher

/-- Two policies of one name with related requirements and, one by one, rules with related matchers. -/
structure Policy.Alike (Q : Requirement → Requirement → Prop) (R : Matcher → Matcher → Prop) (p p' : Policy) :
    Prop where
  id : p'.id = p.id
  requirement : Q p.requirement p'.requirement
  rules : List.Forall₂ (Rule.Alike R) p.rules p'.rules

namespace Filter

/-- Two filters that are alike, policy by policy, except for requirements and matchers, which are related. -/
def Alike (Q : Requirement → Requirement → Prop) (R : Matcher → Matcher → Prop) (f f' : Filter) : Prop :=
  List.Forall₂ (Policy.Alike Q R) f.policies f'.policies

section Alike

variable {Q Q' : Requirement → Requirement → Prop} {R R' : Matcher → Matcher → Prop} {f f' : Filter}

theorem Alike.imp (h : Alike Q R f f') (hQ : ∀ {q q'}, Q q q' → Q' q q') (hR : ∀ {m m'}, R m m' → R' m m') :
    Alike Q' R' f f' :=
  List.Forall₂.imp (fun _ _ hp =>
    ⟨hp.id, hQ hp.requirement, hp.rules.imp fun _ _ hrule => ⟨hrule.key, hrule.effect, hR hrule.matcher⟩⟩) h

theorem alike_self (hQ : ∀ p ∈ f.policies, Q p.requirement p.requirement)
    (hR : ∀ p ∈ f.policies, ∀ rule ∈ p.rules, R rule.matcher rule.matcher) : Alike Q R f f :=
  List.forall₂_same.2 fun p hp =>
    ⟨rfl, hQ p hp, List.forall₂_same.2 fun rule hrule => ⟨rfl, rfl, hR p hp rule hrule⟩⟩

end Alike

/-- Two filters whose tests answer alike, those of the first in one context and those of the second in another. -/
def AnswersAlike (ctx ctx' : Context) : Filter → Filter → Prop :=
  Alike (fun q q' => q.test ctx = q'.test ctx') fun m m' => ∀ v, m.test v ctx = m'.test v ctx'

section Parts

variable {f : Filter} {p : Policy} (hp : p ∈ f.policies)
include hp

theorem mem_requirements {q : Requirement} (h : q ∈ p.requirement.parts) : q ∈ f.requirements :=
  List.mem_flatMap.2 ⟨p, hp, h⟩

theorem mem_matchers_of_rule {rule : Rule} (hrule : rule ∈ p.rules) {m : Matcher} (h : m ∈ rule.matcher.parts) :
    m ∈ f.matchers :=
  List.mem_flatMap.2 ⟨p, hp, List.mem_append_right _ (List.mem_flatMap.2 ⟨rule, hrule, h⟩)⟩

theorem mem_matchers_of_attributeValue {key : String} {m m' : Matcher}
    (hvalue : .attributeValue key m ∈ p.requirement.parts) (h : m' ∈ m.parts) : m' ∈ f.matchers :=
  List.mem_flatMap.2 ⟨p, hp, List.mem_append_left _ (List.mem_flatMap.2 ⟨_, hvalue, h⟩)⟩

end Parts

/-- What the active policies say about a value under a key. -/
def verdict (f : Filter) (ctx : Context) (key : String) (v : Value) : Verdict :=
  judge ctx (rulesFor (f.active ctx) key) v

variable {ctx ctx' : Context} {f f' : Filter}

theorem isActive_eq {p p' : Policy} (h : p.requirement.test ctx = p'.requirement.test ctx') :
    isActive ctx p = isActive ctx' p' := by
  rw [isActive, isActive, h]

theorem requirementFails_eq {p p' : Policy} (h : p.requirement.test ctx = p'.requirement.test ctx') :
    requirementFails ctx p = requirementFails ctx' p' := by
  rw [requirementFails, requirementFails, h]

theorem judge_eq {v : Value} {rules rules' : List Rule}
    (h : List.Forall₂ (Rule.Alike fun m m' => m.test v ctx = m'.test v ctx') rules rules') :
    judge ctx rules v = judge ctx' rules' v := by
  have hconsider : ∀ {rule rule' : Rule}, rule.Alike (fun m m' => m.test v ctx = m'.test v ctx') rule' →
      ∀ verdict : Verdict, verdict.consider ctx v rule = verdict.consider ctx' v rule' := by
    intro rule rule' hrule verdict
    rw [Verdict.consider, Verdict.consider, hrule.effect, hrule.matcher]
  unfold judge
  generalize ({} : Verdict) = verdict
  induction h generalizing verdict with
  | nil => rfl
  | cons hrule _ ih => rw [List.foldl_cons, List.foldl_cons, hconsider hrule, ih]

namespace AnswersAlike

variable (h : AnswersAlike ctx ctx' f f')
include h

theorem active : List.Forall₂ (Policy.Alike (fun q q' => q.test ctx = q'.test ctx') fun m m' =>
    ∀ v, m.test v ctx = m'.test v ctx') (f.active ctx) (f'.active ctx') :=
  List.rel_filter (fun _ _ hp => by simp only [isActive_eq hp.requirement]) h

theorem activePolicies_eq : (f.active ctx).map Policy.id = (f'.active ctx').map Policy.id := by
  have hids : List.Forall₂ Eq ((f.active ctx).map Policy.id) ((f'.active ctx').map Policy.id) :=
    List.rel_map (fun _ _ hp => hp.id.symm) h.active
  exact List.forall₂_eq_eq_eq ▸ hids

theorem countFailing_eq : (f.policies.filter (requirementFails ctx)).length =
    (f'.policies.filter (requirementFails ctx')).length :=
  (List.rel_filter (fun _ _ hp => by simp only [requirementFails_eq hp.requirement]) h).length_eq

theorem verdict_eq : f.verdict ctx = f'.verdict ctx' := by
  funext key v
  refine judge_eq (List.rel_filter (fun rule rule' hrule => ?_) ?_)
  · simp only [hrule.key]
  · refine List.rel_flatMap h.active fun _ _ hp => ?_
    exact hp.rules.imp fun _ _ hrule => ⟨hrule.key, hrule.effect, hrule.matcher v⟩

end AnswersAlike

theorem release_eq (f : Filter) (attributes : AttributeMap) (request : Request) :
    f.release attributes request =
      { attributes := (attributes.mapValues fun key a =>
          a.retain fun v => (f.verdict ⟨request, attributes⟩ key v).releases).filter fun _ a => !a.isEmpty
        activePolicies := (f.active ⟨request, attributes⟩).map Policy.id
        failures := (f.policies.filter (requirementFails ⟨request, attributes⟩)).length +
          total (attributes.entries.map fun e =>
            total (e.2.values.map fun v => (f.verdict ⟨request, attributes⟩ e.1 v).failures)) } := rfl

end Filter

end AttributeRelease
