import AttributeRelease.Text.Lowercase
import AttributeRelease.Unicode.Age
import AttributeRelease.Unicode.Segment

/-!
Classes of characters by the names of the Unicode standard. Names are compared without regard to
case, blanks, hyphens, underscores and a leading `is`.
-/

namespace AttributeRelease.Unicode

/-- What is asked for: a name of any kind, or a value of a named property. -/
inductive ClassQuery where
  | named (name : List Char)
  | valued (property value : List Char)

namespace ClassQuery

/-- Drops a leading `is` in either case, and tells whether there was one. -/
def dropIs (name : List Char) : Bool × List Char :=
  match name with
  | i :: s :: rest => if (i = 'i' ∨ i = 'I') ∧ (s = 's' ∨ s = 'S') then (true, rest) else (false, name)
  | _ => (false, name)

/--
A name in the form in which names are compared; what is not ASCII does not count. There is a property with
the name `isc`, which therefore keeps its first two letters.
-/
def normalName (name : List Char) : String :=
  let (dropped, body) := dropIs name
  let letters := body.filter fun c => c ≠ ' ' && c ≠ '_' && c ≠ '-' && c.toNat < 0x80
  match dropped, letters.map Text.lowerLatin with
  | true, ['c'] => "isc"
  | _, letters => String.ofList letters

/-- A general category, or one of the three classes that are named like one. -/
def category? (name : String) : Option CharSet :=
  match name with
  | "any" => some .any
  | "assigned" => some Category.unassigned.compl
  | "ascii" => some (.interval 0 0x7F)
  | name => (Category.byName.find? (·.1.contains name)).map (·.2)

/-- Names that stand for a category although properties are called the same. -/
def categoriesFirst : List String := ["cf", "sc", "lc"]

/-- The class that is asked for. A name may be that of a property, a category or a script, in this order. -/
def class? : ClassQuery → Option CharSet
  | .named name =>
    let name := normalName name
    let property := if categoriesFirst.contains name then none else Property.ofName? name
    property <|> category? name <|> (Script.ofName? name).map (·.own)
  | .valued property value =>
    let value := normalName value
    match normalName property with
    | "gc" | "generalcategory" => category? value
    | "sc" | "script" => (Script.ofName? value).map (·.own)
    | "scx" | "scriptextensions" => (Script.ofName? value).map Script.extended
    | "age" => Age.ofName? value
    | "gcb" | "graphemeclusterbreak" => Segment.ofName? Segment.graphemes value
    | "wb" | "wordbreak" => Segment.ofName? Segment.wordClasses value
    | "sb" | "sentencebreak" => Segment.ofName? Segment.sentences value
    | _ => none

end ClassQuery

end AttributeRelease.Unicode
