import AttributeRelease.Definition.Basic

/-!
Definitions that give values a scope: a fixed one, or the one written behind a delimiter.
-/

namespace AttributeRelease.Definition

/-- Gives every value with a plain part the same scope. Values without one are left out. -/
def withScope (scope : String) : Definition := fun input =>
  .ok (input.values.filterMap fun v => v.plain?.map fun s => .scoped s scope)

/-- Splits a text at the first delimiter. -/
def splitFirst? (delimiter : Char) (text : String) : Option (String × String) :=
  match text.toList.dropWhile (· ≠ delimiter) with
  | [] => none
  | _ :: rest => some (String.ofList (text.toList.takeWhile (· ≠ delimiter)), String.ofList rest)

/-- A text with its scope behind the first delimiter; neither part may be empty. -/
def scopedOf (delimiter : Char) (text : String) : Except DefinitionError Value :=
  match splitFirst? delimiter text with
  | some (value, scope) =>
    if value ≠ "" ∧ scope ≠ "" then .ok (.scoped value scope) else .error unusable
  | none => .error unusable
where
  /-- The text does not have the form wanted. -/
  unusable : DefinitionError := .unusableValue text s!"expected value{delimiter}scope"

/-- Gives every value the scope that its text names; values that are neither text nor scoped are left out. -/
def scopeAll (delimiter : Char) : List Value → Except DefinitionError (List Value)
  | [] => .ok []
  | .scoped value scope :: rest => return .scoped value scope :: (← scopeAll delimiter rest)
  | .string s :: rest => do
    let v ← scopedOf delimiter s
    return v :: (← scopeAll delimiter rest)
  | _ :: rest => scopeAll delimiter rest

/-- Values of the form `value@scope`, with some delimiter in place of the `@`. -/
def prescoped (delimiter : Char) : Definition := fun input => scopeAll delimiter input.values

end AttributeRelease.Definition
