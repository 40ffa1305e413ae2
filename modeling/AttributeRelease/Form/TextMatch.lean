import AttributeRelease.Filter.TextMatch
import AttributeRelease.Form.Basic

/-!
The JSON form of text matches. Whether case counts may be said by `case_sensitive` or, the other way
round, by `ignore_case`; if both are there they must agree.
-/

namespace AttributeRelease

open Json (Document)

namespace TextMatch

/-- A text match while it is read. -/
structure Parts where
  value : Option String := none
  caseSensitive : Option (Option Bool) := none
  ignoreCase : Option (Option Bool) := none

def fields : List (Form.Field Parts) :=
  [⟨"value", (·.value.isSome), fun d s => return { s with value := some (← Form.string d) }, false⟩,
   ⟨"case_sensitive", (·.caseSensitive.isSome),
    fun d s => return { s with caseSensitive := some (← Form.nullable Form.bool d) }, true⟩,
   ⟨"ignore_case", (·.ignoreCase.isSome),
    fun d s => return { s with ignoreCase := some (← Form.nullable Form.bool d) }, true⟩]

/-- Whether case counts, by what the two flags say; without any it does. -/
def ofFlags (value : String) : (caseSensitive ignoreCase : Option Bool) → Except FormError TextMatch
  | some sensitive, some ignore =>
    if sensitive = ignore then .error (.conflictingFlags sensitive ignore value)
    else .ok ⟨value, sensitive⟩
  | some sensitive, none => .ok ⟨value, sensitive⟩
  | none, some ignore => .ok ⟨value, !ignore⟩
  | none, none => .ok ⟨value, true⟩

def ofDocument (d : Document) : Except FormError TextMatch := do
  let parts ← Form.record fields {} d
  ofFlags (← Form.required parts.value) (parts.caseSensitive.getD none) (parts.ignoreCase.getD none)

def toJson (m : TextMatch) : Json :=
  .object [("case_sensitive", .bool m.caseSensitive), ("value", .string m.value)]

end TextMatch

end AttributeRelease
