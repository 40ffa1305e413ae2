import AttributeRelease.Definition.Basic
import AttributeRelease.Regex.Basic

/-!
The definition that takes a part out of each value, given by the first group of a pattern.
-/

namespace AttributeRelease.Definition

/-- What the first group matches in each value; values that do not match are left out. -/
def extract (r : Regex) : Definition := fun input =>
  .ok (input.values.filterMap fun v => do
    let captures ← r.captures? (← v.plain?)
    return .string (← captures.group? 1))

/--
The definition for a pattern that is to match whole values and must have a group. What is read is the text for whole
values, and `explain` says why it is refused if it is.
-/
def extract? (explain : String → String) (pattern : String) : Except DefinitionError Definition :=
  match Regex.whole? pattern with
  | none => .error (.invalidPattern pattern (explain (Regex.wholeText pattern)))
  | some r =>
    if r.groupCount < 2 then .error (.invalidConfiguration s!"pattern '{pattern}' has no capture group")
    else .ok (extract r)

end AttributeRelease.Definition
