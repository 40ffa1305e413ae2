import AttributeRelease.Attribute.Basic
import AttributeRelease.Filter.Error
import AttributeRelease.Filter.TextMatch
import AttributeRelease.Regex.Whole
import AttributeRelease.Request

/-!
Matchers: tests of a single attribute value. A test of one's own may fail or even crash, so the answer
of a matcher is a truth value or an error. `and` ends at the first child that does not hold, `or` at
the first that does, and both end at the first that fails; what comes after is not looked at.
-/

namespace AttributeRelease

namespace Filter

/-- What a test may look at: the request and all attributes, filtered or not. -/
structure Context where
  request : Request
  attributes : AttributeMap

/-- How a test of one's own ends. -/
inductive Reply where
  | holds (b : Bool)
  | fails (e : FilterError)
  | panics

/-- The reply of the test with this name as an answer. -/
def Reply.answer (name : String) : Reply → Except FilterError Bool
  | .holds b => .ok b
  | .fails e => .error e
  | .panics => .error (.matcher name "predicate panicked")

end Filter

open AttributeRelease.Filter (Context Reply)

/-- A named test of values. -/
structure ValuePredicate where
  name : String
  test : Value → Context → Reply

/-- A test of a single value. -/
inductive Matcher where
  | any
  | none
  /-- Compares the plain part of a value. -/
  | text (m : TextMatch)
  | regex (r : WholeRegex)
  /-- Compares the scope of a scoped value. -/
  | scope (m : TextMatch)
  | scopeRegex (r : WholeRegex)
  /-- Compares the part before the scope and the scope. -/
  | scopedText (localPart scope : TextMatch) (delimiter : Char)
  | and (children : List Matcher)
  | or (children : List Matcher)
  | not (child : Matcher)
  | custom (p : ValuePredicate)

namespace Matcher

/-- The character between local part and scope where none is named. -/
def defaultDelimiter : Char := '@'

/-- Splits a text at the last delimiter. -/
def splitLast? (delimiter : Char) (text : String) : Option (String × String) :=
  let reversed := text.toList.reverse
  match reversed.dropWhile (· ≠ delimiter) with
  | [] => .none
  | _ :: rest =>
    some (String.ofList rest.reverse, String.ofList (reversed.takeWhile (· ≠ delimiter)).reverse)

/-- The local part and the scope of a value; a string has its scope after the last delimiter. -/
def split? (delimiter : Char) : Value → Option (String × String)
  | .scoped l s => some (l, s)
  | .string s => splitLast? delimiter s
  | .bytes _ | .empty => .none

mutual

/-- The answer for a value. -/
def test (v : Value) (ctx : Context) : Matcher → Except FilterError Bool
  | .any => .ok true
  | .none => .ok false
  | .text m => .ok (v.plain?.any m.accepts)
  | .regex r => .ok (v.plain?.any r.accepts)
  | .scope m => .ok (v.scope?.any m.accepts)
  | .scopeRegex r => .ok (v.scope?.any r.accepts)
  | .scopedText l s delimiter =>
    .ok ((split? delimiter v).any fun parts => l.accepts parts.1 && s.accepts parts.2)
  | .and children => testAll v ctx children
  | .or children => testAny v ctx children
  | .not child => (test v ctx child).map (!·)
  | .custom p => (p.test v ctx).answer p.name

def testAll (v : Value) (ctx : Context) : List Matcher → Except FilterError Bool
  | [] => .ok true
  | m :: rest => do if ← test v ctx m then testAll v ctx rest else return false

def testAny (v : Value) (ctx : Context) : List Matcher → Except FilterError Bool
  | [] => .ok false
  | m :: rest => do if ← test v ctx m then return true else testAny v ctx rest

end

end Matcher

end AttributeRelease
