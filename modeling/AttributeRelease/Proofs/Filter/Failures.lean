import AttributeRelease.Proofs.Filter.Disclosure
import AttributeRelease.Proofs.Filter.Junctions
import Mathlib.Data.List.Forall2

/-!
What failing tests can do. Two filters are compared that differ only in their own tests, and in these only
where the first one came to no answer. Whatever the first filter could answer the second one answers in the
same way, at every depth of a matcher or a requirement: an answer never rests on a test that failed. So the
failures of the first filter have only withheld values, unless they kept a policy from denying some.
-/

namespace AttributeRelease

open AttributeRelease.Filter (Context Reply)

namespace Filter

/-- What was answered is answered in the same way. -/
def Persists (x y : Except FilterError Bool) : Prop := ∀ b, x = .ok b → y = .ok b

namespace Persists

variable {x y : Except FilterError Bool}

theorem refl (x : Except FilterError Bool) : Persists x x := fun _ h => h

/-- If the first of two tests decides how to go on, and does so in the same way. -/
theorem branch (h : Persists x y) {f f' g g' : Except FilterError Bool} (hf : Persists f f')
    (hg : Persists g g') :
    Persists (x >>= fun b => if b = true then f else g) (y >>= fun b => if b = true then f' else g') := by
  intro b hb
  cases x with
  | error e => cases hb
  | ok a =>
    rw [h a rfl]
    cases a with
    | true => exact hf b hb
    | false => exact hg b hb

theorem not (h : Persists x y) : Persists (x.map (!·)) (y.map (!·)) := by
  intro b hb
  cases x with
  | error e => cases hb
  | ok a =>
    rw [h a rfl]
    exact hb

theorem conj {α : Type} {as bs : List α} {f g : α → Answer}
    (h : List.Forall₂ (fun a b => Persists (f a) (g b)) as bs) :
    Persists (conj (as.map f)) (conj (bs.map g)) := by
  induction h with
  | nil => exact .refl _
  | cons hfirst _ ih =>
    rw [List.map_cons, List.map_cons, Filter.conj, Filter.conj]
    exact hfirst.branch ih (.refl _)

theorem disj {α : Type} {as bs : List α} {f g : α → Answer}
    (h : List.Forall₂ (fun a b => Persists (f a) (g b)) as bs) :
    Persists (disj (as.map f)) (disj (bs.map g)) := by
  induction h with
  | nil => exact .refl _
  | cons hfirst _ ih =>
    rw [List.map_cons, List.map_cons, Filter.disj, Filter.disj]
    exact hfirst.branch (.refl _) ih

theorem ofReply {r r' : Reply} (h : ∀ b, r = .holds b → r' = .holds b) (name name' : String) :
    Persists (r.answer name) (r'.answer name') := by
  intro b hb
  cases r with
  | holds a =>
    rw [h a rfl]
    exact hb
  | fails e => cases hb
  | panics => cases hb

end Persists

end Filter

open AttributeRelease.Filter (Persists)

namespace Matcher

/-- A matcher that differs from another one only in tests of its own, and in these only where the other one
came to no answer. -/
inductive Clarifies (ctx : Context) : Matcher → Matcher → Prop
  | same (m : Matcher) : Clarifies ctx m m
  | and {children children' : List Matcher} (hlength : children.length = children'.length)
    (h : ∀ m m', (m, m') ∈ children.zip children' → Clarifies ctx m m') :
    Clarifies ctx (.and children) (.and children')
  | or {children children' : List Matcher} (hlength : children.length = children'.length)
    (h : ∀ m m', (m, m') ∈ children.zip children' → Clarifies ctx m m') :
    Clarifies ctx (.or children) (.or children')
  | not {child child' : Matcher} (h : Clarifies ctx child child') : Clarifies ctx (.not child) (.not child')
  | custom {p p' : ValuePredicate} (h : ∀ v b, p.test v ctx = .holds b → p'.test v ctx = .holds b) :
    Clarifies ctx (.custom p) (.custom p')

mutual

/-- A matcher and all those in it, from the outside in. -/
def parts : Matcher → List Matcher
  | .and children => .and children :: partsOfAll children
  | .or children => .or children :: partsOfAll children
  | .not child => .not child :: parts child
  | m => [m]

/-- The matchers of a list and all those in them. -/
def partsOfAll : List Matcher → List Matcher
  | [] => []
  | m :: rest => parts m ++ partsOfAll rest

end

theorem partsOfAll_eq (ms : List Matcher) : partsOfAll ms = ms.flatMap parts := by
  induction ms with
  | nil => rfl
  | cons m rest ih => rw [partsOfAll, ih, List.flatMap_cons]

variable {v : Value} {ctx : Context}

theorem Clarifies.persists {m m' : Matcher} (h : Clarifies ctx m m') (v : Value) :
    Persists (m.test v ctx) (m'.test v ctx) := by
  induction h with
  | same => exact .refl _
  | and hlength _ ih =>
    rw [test_and, test_and]
    exact .conj (List.forall₂_iff_zip.2 ⟨hlength, ih _ _⟩)
  | or hlength _ ih =>
    rw [test_or, test_or]
    exact .disj (List.forall₂_iff_zip.2 ⟨hlength, ih _ _⟩)
  | not _ ih => simpa only [test] using ih.not
  | @custom p p' h => simpa only [test] using Persists.ofReply (h v) p.name p'.name

/-- What stands at the same place of the two clarifies in turn. -/
theorem Clarifies.parts {m m' : Matcher} (h : Clarifies ctx m m') :
    List.Forall₂ (Clarifies ctx) m.parts m'.parts := by
  induction h with
  | same m => exact List.forall₂_same.2 fun c _ => .same c
  | and hlength h ih =>
    rw [Matcher.parts, Matcher.parts, partsOfAll_eq, partsOfAll_eq]
    exact .cons (.and hlength h) (List.rel_flatMap (List.forall₂_iff_zip.2 ⟨hlength, ih _ _⟩) fun _ _ hparts => hparts)
  | or hlength h ih =>
    rw [Matcher.parts, Matcher.parts, partsOfAll_eq, partsOfAll_eq]
    exact .cons (.or hlength h) (List.rel_flatMap (List.forall₂_iff_zip.2 ⟨hlength, ih _ _⟩) fun _ _ hparts => hparts)
  | not h ih =>
    rw [Matcher.parts, Matcher.parts]
    exact .cons (.not h) ih
  | custom h =>
    rw [Matcher.parts, Matcher.parts]
    · exact .cons (.custom h) .nil
    all_goals exact nofun

end Matcher

/-! ### Requirements -/

namespace Requirement

/-- A requirement that differs from another one only in tests of its own, and in these only where the other
one came to no answer. -/
inductive Clarifies (ctx : Context) : Requirement → Requirement → Prop
  | same (q : Requirement) : Clarifies ctx q q
  | attributeValue (key : String) {m m' : Matcher} (h : m.Clarifies ctx m') :
    Clarifies ctx (.attributeValue key m) (.attributeValue key m')
  | and {children children' : List Requirement} (hlength : children.length = children'.length)
    (h : ∀ q q', (q, q') ∈ children.zip children' → Clarifies ctx q q') :
    Clarifies ctx (.and children) (.and children')
  | or {children children' : List Requirement} (hlength : children.length = children'.length)
    (h : ∀ q q', (q, q') ∈ children.zip children' → Clarifies ctx q q') :
    Clarifies ctx (.or children) (.or children')
  | not {child child' : Requirement} (h : Clarifies ctx child child') : Clarifies ctx (.not child) (.not child')
  | custom {p p' : RequestPredicate} (h : ∀ b, p.test ctx = .holds b → p'.test ctx = .holds b) :
    Clarifies ctx (.custom p) (.custom p')

mutual

/-- A requirement and all those in it, from the outside in. -/
def parts : Requirement → List Requirement
  | .and children => .and children :: partsOfAll children
  | .or children => .or children :: partsOfAll children
  | .not child => .not child :: parts child
  | q => [q]

/-- The requirements of a list and all those in them. -/
def partsOfAll : List Requirement → List Requirement
  | [] => []
  | q :: rest => parts q ++ partsOfAll rest

end

theorem partsOfAll_eq (qs : List Requirement) : partsOfAll qs = qs.flatMap parts := by
  induction qs with
  | nil => rfl
  | cons q rest ih => rw [partsOfAll, ih, List.flatMap_cons]

/-- The matchers that a requirement itself tests values with. -/
def ownMatchers : Requirement → List Matcher
  | .attributeValue _ m => m.parts
  | _ => []

/-- All matchers in a requirement. -/
def matchers (q : Requirement) : List Matcher := q.parts.flatMap ownMatchers

variable {ctx : Context}

theorem someValue_persists {m m' : Matcher} (h : m.Clarifies ctx m') (values : List Value) :
    Persists (someValue m ctx values) (someValue m' ctx values) := by
  rw [someValue_eq, someValue_eq]
  exact .disj (List.forall₂_same.2 fun v _ => h.persists v)

theorem Clarifies.persists {q q' : Requirement} (h : Clarifies ctx q q') :
    Persists (q.test ctx) (q'.test ctx) := by
  induction h with
  | same => exact .refl _
  | attributeValue key h => simpa only [test] using someValue_persists h _
  | and hlength _ ih =>
    rw [test_and, test_and]
    exact .conj (List.forall₂_iff_zip.2 ⟨hlength, ih _ _⟩)
  | or hlength _ ih =>
    rw [test_or, test_or]
    exact .disj (List.forall₂_iff_zip.2 ⟨hlength, ih _ _⟩)
  | not _ ih => simpa only [test] using ih.not
  | @custom p p' h => simpa only [test] using Persists.ofReply h p.name p'.name

theorem Clarifies.parts {q q' : Requirement} (h : Clarifies ctx q q') :
    List.Forall₂ (Clarifies ctx) q.parts q'.parts := by
  induction h with
  | same q => exact List.forall₂_same.2 fun c _ => .same c
  | and hlength h ih =>
    rw [Requirement.parts, Requirement.parts, partsOfAll_eq, partsOfAll_eq]
    exact .cons (.and hlength h) (List.rel_flatMap (List.forall₂_iff_zip.2 ⟨hlength, ih _ _⟩) fun _ _ hparts => hparts)
  | or hlength h ih =>
    rw [Requirement.parts, Requirement.parts, partsOfAll_eq, partsOfAll_eq]
    exact .cons (.or hlength h) (List.rel_flatMap (List.forall₂_iff_zip.2 ⟨hlength, ih _ _⟩) fun _ _ hparts => hparts)
  | not h ih =>
    rw [Requirement.parts, Requirement.parts]
    exact .cons (.not h) ih
  | attributeValue key h => simpa [Requirement.parts] using Clarifies.attributeValue key h
  | custom h => simpa [Requirement.parts] using Clarifies.custom h

theorem Clarifies.ownMatchers {q q' : Requirement} (h : Clarifies ctx q q') :
    List.Forall₂ (Matcher.Clarifies ctx) q.ownMatchers q'.ownMatchers := by
  cases h with
  | same => exact List.forall₂_same.2 fun m _ => .same m
  | attributeValue key h => exact h.parts
  | and | or | not | custom => exact .nil

theorem Clarifies.matchers {q q' : Requirement} (h : Clarifies ctx q q') :
    List.Forall₂ (Matcher.Clarifies ctx) q.matchers q'.matchers :=
  List.rel_flatMap h.parts fun _ _ hpart => hpart.ownMatchers

end Requirement

/-- A rule whose matcher clarifies that of another one. -/
structure Rule.Clarifies (ctx : Context) (rule rule' : Rule) : Prop where
  key : rule'.key = rule.key
  effect : rule'.effect = rule.effect
  matcher : rule.matcher.Clarifies ctx rule'.matcher

/-- A policy whose requirement and rules clarify those of another one. -/
structure Policy.Clarifies (ctx : Context) (p p' : Policy) : Prop where
  id : p'.id = p.id
  requirement : p.requirement.Clarifies ctx p'.requirement
  rules : List.Forall₂ (Rule.Clarifies ctx) p.rules p'.rules

namespace Filter

/-- A filter whose policies clarify those of another one, one by one. -/
def Clarifies (ctx : Context) (f f' : Filter) : Prop := List.Forall₂ (Policy.Clarifies ctx) f.policies f'.policies

/-- All requirements in a filter, at every depth. -/
def requirements (f : Filter) : List Requirement := f.policies.flatMap fun p => p.requirement.parts

/-- All matchers in a filter, at every depth: those of requirements and those of rules. -/
def matchers (f : Filter) : List Matcher :=
  f.policies.flatMap fun p => p.requirement.matchers ++ p.rules.flatMap fun rule => rule.matcher.parts

variable {f f' : Filter} {ctx : Context}

theorem Clarifies.requirements (h : Clarifies ctx f f') :
    List.Forall₂ (Requirement.Clarifies ctx) f.requirements f'.requirements :=
  List.rel_flatMap h fun _ _ hp => hp.requirement.parts

theorem Clarifies.matchers (h : Clarifies ctx f f') :
    List.Forall₂ (Matcher.Clarifies ctx) f.matchers f'.matchers := by
  refine List.rel_flatMap h fun p p' hp => ?_
  exact List.rel_append hp.requirement.matchers (List.rel_flatMap hp.rules fun _ _ hrule => hrule.matcher.parts)

/-- Whoever stands in one of two related lists has a counterpart in the other. -/
theorem exists_rel_right {α β : Type} {R : α → β → Prop} {as : List α} {bs : List β} (h : List.Forall₂ R as bs)
    {a : α} (ha : a ∈ as) : ∃ b ∈ bs, R a b := by
  induction h with
  | nil => cases ha
  | cons hfirst _ ih =>
    rcases List.mem_cons.1 ha with rfl | ha
    · exact ⟨_, List.mem_cons_self, hfirst⟩
    · obtain ⟨b, hb, hr⟩ := ih ha
      exact ⟨b, List.mem_cons_of_mem _ hb, hr⟩

/-- A rule that grants a value still does. -/
theorem Clarifies.grants (h : Clarifies ctx f f') {key : String} {v : Value}
    (hsome : SomeRule f ctx key (Grants ctx v)) : SomeRule f' ctx key (Grants ctx v) := by
  obtain ⟨p, hp, hmet, rule, hrule, hkey, heffect, hmatch⟩ := hsome
  obtain ⟨p', hp', hclear⟩ := exists_rel_right h hp
  obtain ⟨rule', hrule', hcleared⟩ := exists_rel_right hclear.rules hrule
  refine ⟨p', hp', hclear.requirement.persists true hmet, rule', hrule', hcleared.key.trans hkey,
    hcleared.effect.trans heffect, ?_⟩
  exact hcleared.matcher.persists v true hmatch

/-- A rule that withholds a value has done so before, if no policy that could deny it failed. -/
theorem Clarifies.withholds (h : Clarifies ctx f f')
    (hdeny : ∀ p ∈ f.policies, (∃ rule ∈ p.rules, rule.effect = .deny) → ∃ met, p.requirement.test ctx = .ok met)
    {key : String} {v : Value} (hsome : SomeRule f' ctx key (Withholds ctx v)) :
    SomeRule f ctx key (Withholds ctx v) := by
  obtain ⟨p', hp', hmet', rule', hrule', hkey, heffect, hmatch'⟩ := hsome
  obtain ⟨p, hp, hclear⟩ := exists_rel_right h.flip hp'
  obtain ⟨rule, hrule, hcleared⟩ := exists_rel_right hclear.rules.flip hrule'
  have hdenies : rule.effect = .deny := hcleared.effect.symm.trans heffect
  obtain ⟨met, hmet⟩ := hdeny p hp ⟨rule, hrule, hdenies⟩
  have hmettrue : met = true := by
    have hsame := hclear.requirement.persists met hmet
    rw [hmet'] at hsame
    exact (Except.ok.inj hsame).symm
  refine ⟨p, hp, hmettrue ▸ hmet, rule, hrule, hcleared.key.symm.trans hkey, hdenies, ?_⟩
  cases hmatch : rule.matcher.test v ctx with
  | error e => exact .inr ⟨e, rfl⟩
  | ok hit =>
    have hsame := hcleared.matcher.persists v hit hmatch
    rcases hmatch' with htrue | ⟨e, herror⟩
    · rw [hsame] at htrue
      exact .inl htrue
    · rw [hsame] at herror
      cases herror

/--
**Failures only withhold.** Let a second filter differ from a first one only in tests of its own that came to
no answer in the first, and let no policy with a denying rule have failed there. Then whatever the first one
releases the second one releases. And every requirement and every matcher in them, at any depth, that came to
an answer in the first comes to the same in the second.
-/
theorem failures_only_withhold {f f' : Filter} {attributes : AttributeMap} {request : Request}
    (h : Clarifies ⟨request, attributes⟩ f f')
    (hdeny : ∀ p ∈ f.policies, (∃ rule ∈ p.rules, rule.effect = .deny) →
      ∃ met, p.requirement.test ⟨request, attributes⟩ = .ok met) :
    (∀ key released v, (f.release attributes request).attributes.get? key = some released → v ∈ released.values →
      ∃ released', (f'.release attributes request).attributes.get? key = some released' ∧ v ∈ released'.values) ∧
    List.Forall₂ (fun q q' => Persists (q.test ⟨request, attributes⟩) (q'.test ⟨request, attributes⟩))
      f.requirements f'.requirements ∧
    List.Forall₂ (fun m m' => ∀ v, Persists (m.test v ⟨request, attributes⟩) (m'.test v ⟨request, attributes⟩))
      f.matchers f'.matchers := by
  refine ⟨fun key released v hreleased hv => ?_, ?_, ?_⟩
  · obtain ⟨a, ha, -, rfl⟩ := (release_get?_eq_some_iff f attributes request key released).1 hreleased
    obtain ⟨hmem, hgrants, hwithholds⟩ := (mem_retain_judge_iff f ⟨request, attributes⟩ key a v).1 hv
    have hmem' := (mem_retain_judge_iff f' ⟨request, attributes⟩ key a v).2
      ⟨hmem, h.grants hgrants, fun hw => hwithholds (h.withholds hdeny hw)⟩
    exact ⟨_, (release_get?_eq_some_iff f' attributes request key _).2
      ⟨a, ha, List.ne_nil_of_mem hmem', rfl⟩, hmem'⟩
  · exact h.requirements.imp fun _ _ hq => hq.persists
  · exact h.matchers.imp fun _ _ hm => hm.persists

namespace Sample

def attributes : AttributeMap := .ofAttributes [.ofStrings "mail" ["alice@example.org", "root@example.org"]]

def request : Request := { principal := "alice" }

/-- Asks a backend which policies apply and which addresses are to be withheld. -/
def guarded (reply : Reply) : Filter where
  policies := [
    { id := "partners", requirement := .custom ⟨"is partner", fun _ => reply⟩
      rules := [{ key := "mail", matcher := .any }] },
    { id := "staff", requirement := .not .none
      rules := [{ key := "mail", matcher := .any },
        { key := "mail"
          matcher := .and [.text (.exact "root@example.org"), .custom ⟨"is blocked", fun _ _ => reply⟩]
          effect := .deny }] }]
  ids_nodup := by simp

theorem guarded_clarifies (reply : Reply) : (guarded .panics).Clarifies ⟨request, attributes⟩ (guarded reply) := by
  refine .cons ⟨rfl, .custom nofun, .cons ⟨rfl, rfl, .same _⟩ .nil⟩ (.cons ⟨rfl, .same _, ?_⟩ .nil)
  refine .cons ⟨rfl, rfl, .same _⟩ (.cons ⟨rfl, rfl, .and rfl fun m m' hmem => ?_⟩ .nil)
  rw [List.zip_cons_cons, List.zip_cons_cons, List.zip_nil_left, List.mem_cons, List.mem_singleton] at hmem
  rcases hmem with hmem | hmem
  · cases hmem
    exact .same _
  · cases hmem
    exact .custom nofun

theorem guarded_answers : ∀ p ∈ (guarded .panics).policies, (∃ rule ∈ p.rules, rule.effect = .deny) →
    ∃ met, p.requirement.test ⟨request, attributes⟩ = .ok met := by
  intro p hp hdeny
  rcases List.mem_cons.1 hp with rfl | hp
  · simp at hdeny
  · rw [List.mem_singleton.1 hp]
    exact ⟨true, rfl⟩

end Sample

/-- While the backend is down one address is released, and it still is when the backend is up again. -/
theorem failures_only_withhold_of_sample :
    (Sample.guarded .panics).Clarifies ⟨Sample.request, Sample.attributes⟩ (Sample.guarded (.holds false)) ∧
      ∃ released released', ((Sample.guarded .panics).release Sample.attributes Sample.request).attributes.get?
          "mail" = some released ∧ released.values = [.string "alice@example.org"] ∧
        ((Sample.guarded (.holds false)).release Sample.attributes Sample.request).attributes.get? "mail" =
          some released' ∧ .string "alice@example.org" ∈ released'.values := by
  have hreleased : ((Sample.guarded .panics).release Sample.attributes Sample.request).attributes.get? "mail" =
      some (.ofStrings "mail" ["alice@example.org"]) := by decide
  obtain ⟨released', hreleased', hmem⟩ := (failures_only_withhold (Sample.guarded_clarifies (.holds false))
    Sample.guarded_answers).1 "mail" _ (.string "alice@example.org") hreleased (by decide)
  exact ⟨Sample.guarded_clarifies _, _, released', hreleased, by decide, hreleased', hmem⟩

end Filter

end AttributeRelease
