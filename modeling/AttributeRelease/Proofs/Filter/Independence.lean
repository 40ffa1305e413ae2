import AttributeRelease.Proofs.Filter.Answers

/-!
What a policy may learn from attributes it does not release. A requirement can ask for the values of any
attribute, and every test of one's own is handed all attributes. A filter that does neither is blind: it
decides on each attribute by that attribute and the request alone, so no attribute shows in what is
released of another one, and a second pass finds nothing left to take away.
-/

namespace AttributeRelease

open AttributeRelease.Filter (Context Reply)

/-- The same reply whatever the attributes are. -/
def ValuePredicate.IgnoresAttributes (p : ValuePredicate) : Prop :=
  ∀ v request attributes attributes', p.test v ⟨request, attributes⟩ = p.test v ⟨request, attributes'⟩

/-- The same reply whatever the attributes are. -/
def RequestPredicate.IgnoresAttributes (p : RequestPredicate) : Prop :=
  ∀ request attributes attributes', p.test ⟨request, attributes⟩ = p.test ⟨request, attributes'⟩

namespace Requirement

/-- A requirement that asks nothing of the attributes, at no depth. -/
structure Blind (q : Requirement) : Prop where
  values : ∀ key m, .attributeValue key m ∉ q.parts
  counts : ∀ key least most, .valueCount key least most ∉ q.parts
  customs : ∀ p, .custom p ∈ q.parts → p.IgnoresAttributes

theorem Blind.asksAlike {q : Requirement} (h : q.Blind) (request : Request) (attributes attributes' : AttributeMap) :
    q.AsksAlike ⟨request, attributes⟩ ⟨request, attributes'⟩ where
  request := rfl
  values key m hmem := absurd hmem (h.values key m)
  counts key least most hmem := absurd hmem (h.counts key least most)
  customs p hp := h.customs p hp request attributes attributes'

end Requirement

/-- Keeps the values that are permitted under their key, and the attributes of which some are. -/
def AttributeMap.restrict (attributes : AttributeMap) (permits : String → Value → Bool) : AttributeMap :=
  (attributes.mapValues fun key a => a.retain (permits key)).filter fun _ a => !a.isEmpty

theorem AttributeMap.restrict_restrict (attributes : AttributeMap) (permits : String → Value → Bool) :
    (attributes.restrict permits).restrict permits = attributes.restrict permits := by
  -- the first pass leaves only entries that the second one does not change
  have hsame : (attributes.restrict permits).mapValues (fun key a => a.retain (permits key)) =
      attributes.restrict permits := by
    refine Keyed.mapValues_eq_self fun e he => ?_
    obtain ⟨e', -, rfl⟩ := List.mem_map.1 (List.mem_of_mem_filter he)
    simp only [Attribute.retain, List.filter_filter, Bool.and_self]
  calc (attributes.restrict permits).restrict permits
      = (attributes.restrict permits).filter fun _ a => !a.isEmpty := by rw [restrict.eq_def, hsame]
    _ = attributes.restrict permits := Keyed.filter_filter_self _ _

namespace Filter

/-- Whether a value may be disclosed under a key. -/
def permits (f : Filter) (ctx : Context) (key : String) (v : Value) : Bool :=
  (judge ctx (rulesFor (f.active ctx) key) v).releases

theorem release_attributes (f : Filter) (attributes : AttributeMap) (request : Request) :
    (f.release attributes request).attributes = attributes.restrict (f.permits ⟨request, attributes⟩) := rfl

/-- A filter in which no requirement asks for values or counts them, and no test of one's own looks at the
attributes, be it in a requirement or in a matcher, at any depth. -/
structure Blind (f : Filter) : Prop where
  values : ∀ key m, .attributeValue key m ∉ f.requirements
  counts : ∀ key least most, .valueCount key least most ∉ f.requirements
  requests : ∀ p, .custom p ∈ f.requirements → p.IgnoresAttributes
  matchers : ∀ p, .custom p ∈ f.matchers → p.IgnoresAttributes

namespace Blind

variable {f : Filter} (h : f.Blind) (request : Request) (attributes attributes' : AttributeMap)
include h

theorem requirement {p : Policy} (hp : p ∈ f.policies) : p.requirement.Blind :=
  ⟨fun key m hm => h.values key m (mem_requirements hp hm),
    fun key least most hc => h.counts key least most (mem_requirements hp hc),
    fun custom hc => h.requests custom (mem_requirements hp hc)⟩

theorem answersAlike : AnswersAlike ⟨request, attributes⟩ ⟨request, attributes'⟩ f f := by
  refine alike_self (fun p hp => ?_) fun p hp rule hrule v => Matcher.test_congr _ fun custom hcustom => ?_
  · exact ((h.requirement hp).asksAlike request attributes attributes').test_eq
  · exact h.matchers custom (mem_matchers_of_rule hp hrule hcustom) v request attributes attributes'

theorem active_eq : f.active ⟨request, attributes⟩ = f.active ⟨request, attributes'⟩ := by
  refine List.filter_congr fun p hp => ?_
  rw [isActive, isActive, ((h.requirement hp).asksAlike request attributes attributes').test_eq]

theorem permits_eq : f.permits ⟨request, attributes⟩ = f.permits ⟨request, attributes'⟩ := by
  funext key v
  exact congrArg (fun verdict => (verdict key v).releases) (h.answersAlike request attributes attributes').verdict_eq

end Blind

/-- **Each attribute by itself.** A blind filter releases the same of an attribute whatever else there is. The
policies that apply are those of the request, and what was released is released as it is. -/
theorem release_each_by_itself {f : Filter} (h : f.Blind) (request : Request) :
    (∀ attributes attributes' key, attributes.get? key = attributes'.get? key →
      (f.release attributes request).attributes.get? key = (f.release attributes' request).attributes.get? key) ∧
    (∀ attributes attributes',
      (f.release attributes request).activePolicies = (f.release attributes' request).activePolicies) ∧
    ∀ attributes, (f.release (f.release attributes request).attributes request).attributes =
      (f.release attributes request).attributes := by
  refine ⟨fun attributes attributes' key hkey => ?_, fun attributes attributes' => ?_, fun attributes => ?_⟩
  · rw [release_attributes, release_attributes, h.permits_eq request attributes attributes']
    simp only [AttributeMap.restrict, Keyed.get?_filter, Keyed.get?_mapValues, hkey]
  · exact congrArg (List.map Policy.id) (h.active_eq request attributes attributes')
  · rw [release_attributes _ (f.release attributes request).attributes, h.permits_eq request _ attributes,
      release_attributes, AttributeMap.restrict_restrict]

namespace Sample

/-- Withholds addresses of the administrator, except where he asks himself. -/
def modest : Filter where
  policies := [
    { id := "everybody", requirement := .and [.any, .not .none]
      rules := [{ key := "mail", matcher := .any }] },
    { id := "others", requirement := .custom ⟨"is other", fun ctx => .holds (ctx.request.principal ≠ "root")⟩
      rules := [{ key := "mail", effect := .deny
                  matcher := .or [.none, .custom ⟨"is root", fun v _ => .holds (v = .string "root@example.org")⟩] }] }]
  ids_nodup := by simp

theorem modest_blind : modest.Blind where
  values key m := by simp [requirements, modest, Requirement.parts, Requirement.partsOfAll]
  counts key least most := by simp [requirements, modest, Requirement.parts, Requirement.partsOfAll]
  requests p hp := by
    simp only [requirements, modest, Requirement.parts, Requirement.partsOfAll, List.flatMap_cons, List.flatMap_nil,
      List.append_nil, List.mem_append, List.mem_cons, List.not_mem_nil, or_false, reduceCtorEq, false_or,
      Requirement.custom.injEq] at hp
    subst hp
    exact fun request attributes attributes' => rfl
  matchers p hp := by
    simp only [matchers, modest, Requirement.matchers, Requirement.ownMatchers, Requirement.parts,
      Requirement.partsOfAll, Matcher.parts, Matcher.partsOfAll, List.flatMap_cons, List.flatMap_nil,
      List.append_nil, List.nil_append, List.cons_append, List.mem_cons, List.not_mem_nil, or_false,
      reduceCtorEq, false_or, Matcher.custom.injEq] at hp
    subst hp
    exact fun v request attributes attributes' => rfl

/-- The attributes with one more. -/
def moreAttributes : AttributeMap := attributes.insert "uid" (.ofStrings "uid" ["17"])

end Sample

/-- The address is released with and without another attribute, and again in a second pass. -/
theorem release_each_by_itself_of_sample :
    Sample.modest.Blind ∧
      (Sample.modest.release Sample.attributes Sample.request).attributes.get? "mail" =
        some (.ofStrings "mail" ["alice@example.org"]) ∧
      (Sample.modest.release Sample.moreAttributes Sample.request).attributes.get? "mail" =
        some (.ofStrings "mail" ["alice@example.org"]) ∧
      (Sample.modest.release Sample.attributes Sample.request).activePolicies =
        (Sample.modest.release Sample.moreAttributes Sample.request).activePolicies ∧
      (Sample.modest.release (Sample.modest.release Sample.attributes Sample.request).attributes
          Sample.request).attributes = (Sample.modest.release Sample.attributes Sample.request).attributes := by
  obtain ⟨hagree, hactive, hagain⟩ := release_each_by_itself Sample.modest_blind Sample.request
  have hmail : (Sample.modest.release Sample.attributes Sample.request).attributes.get? "mail" =
      some (.ofStrings "mail" ["alice@example.org"]) := by decide
  have hsame := hagree Sample.attributes Sample.moreAttributes "mail" (by decide)
  exact ⟨Sample.modest_blind, hmail, hsame.symm.trans hmail, hactive _ _, hagain _⟩

end Filter

end AttributeRelease
