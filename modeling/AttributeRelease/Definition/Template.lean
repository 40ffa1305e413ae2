import AttributeRelease.Definition.Basic

/-!
Templates: texts with places `${name}` for the values of source attributes. A template gives one value
for each position in its sources, which must all have the same number of values. Inserted text is not
looked at again.
-/

namespace AttributeRelease

/-- A part of a template: text as it is, or the place of a source. -/
inductive Segment where
  | text (chars : List Char)
  | source (name : String)
  deriving DecidableEq, Repr

namespace Segment

def write : Segment → List Char
  | .text chars => chars
  | .source name => '$' :: '\x7b' :: name.toList ++ ['\x7d']

/-- The segment of some text, unless there is none. -/
def ofText (chars : List Char) : List Segment := if chars.isEmpty then [] else [.text chars]

end Segment

/-- Why a text is no template. -/
inductive TemplateError where
  | noSource
  | unterminated (template : String)
  | unknownSource (name : String)
  deriving DecidableEq, Repr

def TemplateError.message : TemplateError → String
  | .noSource => "template needs at least one source attribute"
  | .unterminated template => s!"unterminated placeholder in '{template}'"
  | .unknownSource name => s!"placeholder '{name}' is not a source attribute"

/-- A template and the attributes whose values it takes. -/
structure Template where
  sources : List String
  segments : List Segment

namespace Template

/-- What ends the reading of a template. -/
inductive ReadError where
  | unterminated
  | unknownSource (name : String)

/--
Reads a template. `text` holds the characters since the last place, last first; `name` those of the
place that is being read, last first, if one is open.
-/
def read (sources : List String) (text : List Char) (name : Option (List Char)) :
    List Char → Except ReadError (List Segment)
  | [] => if name.isSome then .error .unterminated else .ok (Segment.ofText text.reverse)
  | c :: rest =>
    match name with
    | some name =>
      if c = '\x7d' then
        let name := String.ofList name.reverse
        if name ∈ sources then return .source name :: (← read sources [] none rest)
        else .error (.unknownSource name)
      else read sources text (some (c :: name)) rest
    | none =>
      if c = '\x7b' ∧ text.head? = some '$' then
        return Segment.ofText text.tail.reverse ++ (← read sources [] (some []) rest)
      else read sources (c :: text) none rest

def ofText? (text : String) (sources : List String) : Except TemplateError Template :=
  if sources.isEmpty then .error .noSource
  else
    match read sources [] none text.toList with
    | .ok segments => .ok ⟨sources, segments⟩
    | .error .unterminated => .error (.unterminated text)
    | .error (.unknownSource name) => .error (.unknownSource name)

def column (attributes : AttributeMap) (name : String) : List Value :=
  ((attributes.get? name).map Attribute.values).getD []

def renderSegment (attributes : AttributeMap) (row : Nat) : Segment → List Char
  | .text chars => chars
  | .source name => (((column attributes name)[row]?).map Value.display).getD "" |>.toList

def renderRow (t : Template) (attributes : AttributeMap) (row : Nat) : String :=
  String.ofList (t.segments.flatMap (renderSegment attributes row))

/-- The number of rows, that of the values of the first source. -/
def rowCount (t : Template) (attributes : AttributeMap) : Nat :=
  ((t.sources.head?.map (column attributes)).getD []).length

def definition (t : Template) : Definition := fun input =>
  let rows := t.rowCount input.attributes
  if t.sources.all fun s => (column input.attributes s).length = rows then
    .ok ((List.range rows).map fun row => .string (t.renderRow input.attributes row))
  else
    .error (.mismatchedCounts (", ".intercalate
      (t.sources.map fun s => s!"{s}={(column input.attributes s).length}")))

end Template

end AttributeRelease
