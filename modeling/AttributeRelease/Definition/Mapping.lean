import AttributeRelease.Definition.Basic
import AttributeRelease.Filter.TextMatch
import AttributeRelease.Regex.Replacement

/-!
The definition that replaces values by others. Each input value is tried against every map; each map
gives at most one value, that of the first of its sources that recognises the input. What no map
recognises is treated as such, once per input value.
-/

namespace AttributeRelease

namespace Mapping

/-- A way to recognise an input value. -/
inductive Source where
  | literal (m : TextMatch)
  | pattern (r : Regex)

/-- A source for whole values; `explain` says why a text is refused. -/
def Source.pattern? (explain : String → String) (pattern : String) : Except DefinitionError Source :=
  match Regex.whole? pattern with
  | some r => .ok (.pattern r)
  | none => .error (.invalidPattern pattern (explain (Regex.wholeText pattern)))

/-- A source for parts of values. -/
def Source.partial? (explain : String → String) (pattern : String) : Except DefinitionError Source :=
  match Regex.ofText? pattern with
  | some r => .ok (.pattern r)
  | none => .error (.invalidPattern pattern (explain pattern))

/-- What an input becomes if the source recognises it: a pattern puts its groups into the result. -/
def Source.map? (source : Source) (text result : String) : Option String :=
  match source with
  | .literal m => if m.accepts text then some result else none
  | .pattern r => (r.captures? text).map (·.expand result)

/-- A result and the sources it stands for. -/
structure Entry where
  result : String
  sources : List Source

/-- The result for an input, by the first source that recognises it. -/
def Entry.map? (e : Entry) (text : String) : Option String := e.sources.findSome? (·.map? text e.result)

/-- What becomes of an input that no map recognises. -/
inductive Unmapped where
  | drop
  | replace (value : String)
  | keep
  deriving DecidableEq, Repr

def Unmapped.values (u : Unmapped) (v : Value) : List Value :=
  match u with
  | .drop => []
  | .replace value => [.string value]
  | .keep => [v]

end Mapping

/-- Maps for values, and what to do with a value that none of them recognises. -/
structure Mapping where
  entries : List Mapping.Entry
  unmapped : Mapping.Unmapped := .drop

namespace Mapping

def contribution (m : Mapping) (v : Value) : List Value :=
  match m.entries.filterMap (·.map? v.display) with
  | [] => m.unmapped.values v
  | results => results.map .string

/-- The definition by these maps; no value comes twice. -/
def definition (m : Mapping) : Definition := fun input =>
  .ok (input.values.foldl (fun out v => appendAllNew out (m.contribution v)) [])

end Mapping

end AttributeRelease
