import AttributeRelease.Filter.Matcher

/-!
Requirements: tests of a request and the attributes as a whole, which decide whether a policy applies.
They are answered and combined like matchers.
-/

namespace AttributeRelease

open AttributeRelease.Filter (Context Reply)

/-- A named test of requests. -/
structure RequestPredicate where
  name : String
  test : Context → Reply

/-- A test of a request. -/
inductive Requirement where
  | any
  | none
  | requester (m : TextMatch)
  | requesterRegex (r : WholeRegex)
  | principal (m : TextMatch)
  | principalRegex (r : WholeRegex)
  /-- Some value of the attribute matches. -/
  | attributeValue (key : String) (m : Matcher)
  /-- The attribute has at least and at most so many values. -/
  | valueCount (key : String) (least : Nat) (most : Option Nat)
  /-- The metadata holds exactly this value. -/
  | metadata (key : String) (value : Json)
  | and (children : List Requirement)
  | or (children : List Requirement)
  | not (child : Requirement)
  | custom (p : RequestPredicate)

namespace Requirement

/-- Whether a matcher holds of some value. -/
def someValue (m : Matcher) (ctx : Context) : List Value → Except FilterError Bool
  | [] => .ok false
  | v :: rest => do if ← m.test v ctx then return true else someValue m ctx rest

mutual

/-- The answer for a request and its attributes. -/
def test (ctx : Context) : Requirement → Except FilterError Bool
  | .any => .ok true
  | .none => .ok false
  | .requester m => .ok (ctx.request.requester.any m.accepts)
  | .requesterRegex r => .ok (ctx.request.requester.any r.accepts)
  | .principal m => .ok (m.accepts ctx.request.principal)
  | .principalRegex r => .ok (r.accepts ctx.request.principal)
  | .attributeValue key m => someValue m ctx (((ctx.attributes.get? key).map Attribute.values).getD [])
  | .valueCount key least most =>
    let count := ((ctx.attributes.get? key).map Attribute.size).getD 0
    .ok (least ≤ count && most.all (count ≤ ·))
  | .metadata key value => .ok (ctx.request.metadata.get? key = some value)
  | .and children => testAll ctx children
  | .or children => testAny ctx children
  | .not child => (test ctx child).map (!·)
  | .custom p => (p.test ctx).answer p.name

def testAll (ctx : Context) : List Requirement → Except FilterError Bool
  | [] => .ok true
  | q :: rest => do if ← test ctx q then testAll ctx rest else return false

def testAny (ctx : Context) : List Requirement → Except FilterError Bool
  | [] => .ok false
  | q :: rest => do if ← test ctx q then return true else testAny ctx rest

end

end Requirement

end AttributeRelease
