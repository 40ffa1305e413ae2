import AttributeRelease.Filter.Policy

/-!
Release of attributes. A value is released only if some active policy permits it and none denies it.
Failures only ever withhold: a requirement that fails leaves its policy inactive, a permitting matcher
that fails does not permit, and a denying one that fails denies. All tests see the unfiltered
attributes.
-/

namespace AttributeRelease

namespace Filter

/-- What the rules have said about a value so far, and how many of them failed. -/
structure Verdict where
  permitted : Bool := false
  denied : Bool := false
  failures : Nat := 0
  deriving DecidableEq, Repr

/-- Takes one more rule into account; a rule that could change nothing is not tried. -/
def Verdict.consider (ctx : Context) (v : Value) (verdict : Verdict) (rule : Rule) : Verdict :=
  match rule.effect with
  | .permit =>
    if verdict.permitted then verdict
    else
      match rule.matcher.test v ctx with
      | .ok hit => { verdict with permitted := hit }
      | .error _ => { verdict with failures := verdict.failures + 1 }
  | .deny =>
    if verdict.denied then verdict
    else
      match rule.matcher.test v ctx with
      | .ok hit => { verdict with denied := hit }
      | .error _ => { verdict with denied := true, failures := verdict.failures + 1 }

/-- What some rules say about a value, in their order. -/
def judge (ctx : Context) (rules : List Rule) (v : Value) : Verdict :=
  rules.foldl (Verdict.consider ctx v) {}

/-- A value is released if it is permitted and not denied. -/
def Verdict.releases (verdict : Verdict) : Bool := verdict.permitted && !verdict.denied

/-- Whether the requirement of a policy is met; one that fails is not. -/
def isActive (ctx : Context) (p : Policy) : Bool :=
  match p.requirement.test ctx with
  | .ok met => met
  | .error _ => false

def requirementFails (ctx : Context) (p : Policy) : Bool :=
  match p.requirement.test ctx with
  | .ok _ => false
  | .error _ => true

/-- The policies that apply. -/
def active (f : Filter) (ctx : Context) : List Policy := f.policies.filter (isActive ctx)

/-- The rules of some policies about one attribute. -/
def rulesFor (policies : List Policy) (key : String) : List Rule :=
  (policies.flatMap Policy.rules).filter (·.key = key)

/-- What is released, and what there is to tell about it. -/
structure Released where
  attributes : AttributeMap
  activePolicies : List String
  /-- How many requirements and matchers failed. -/
  failures : Nat

def total (ns : List Nat) : Nat := ns.foldr (· + ·) 0

/-- The part of the attributes that may be disclosed for a request. -/
def release (f : Filter) (attributes : AttributeMap) (request : Request) : Released :=
  let ctx : Context := ⟨request, attributes⟩
  let policies := f.active ctx
  let verdict := fun key v => judge ctx (rulesFor policies key) v
  { attributes :=
      (attributes.mapValues fun key a =>
        a.retain fun v => (verdict key v).releases).filter fun _ a => !a.isEmpty
    activePolicies := policies.map Policy.id
    failures :=
      (f.policies.filter (requirementFails ctx)).length +
        total (attributes.entries.map fun e => total (e.2.values.map fun v => (verdict e.1 v).failures)) }

end Filter

end AttributeRelease
