import AttributeRelease.Attribute.Value
import AttributeRelease.Keyed

/-!
Attributes: named lists of values in which no value stands twice. A value that comes again is
dropped, so each operation keeps the order of first appearance.
-/

namespace AttributeRelease

/-- Appends a value unless the list has it already. -/
def appendNew (values : List Value) (v : Value) : List Value :=
  if v ∈ values then values else values ++ [v]

theorem appendNew_nodup {values : List Value} (h : values.Nodup) (v : Value) :
    (appendNew values v).Nodup := by
  unfold appendNew
  split
  · exact h
  · rename_i hv
    exact List.nodup_append.2 ⟨h, by simp, by
      intro a ha b hb e
      simp only [List.mem_singleton] at hb
      exact hv (hb ▸ e ▸ ha)⟩

/-- Appends the new ones of some values in turn. -/
def appendAllNew (values more : List Value) : List Value := more.foldl appendNew values

theorem appendAllNew_nodup {values : List Value} (h : values.Nodup) (more : List Value) :
    (appendAllNew values more).Nodup := by
  unfold appendAllNew
  induction more generalizing values with
  | nil => exact h
  | cons v rest ih => exact ih (appendNew_nodup h v)

/-- A named list of values without repetitions. -/
structure Attribute where
  id : String
  values : List Value
  values_nodup : values.Nodup
  deriving DecidableEq

namespace Attribute

def empty (id : String) : Attribute := ⟨id, [], .nil⟩

/-- Adds a value at the end unless it is there already. -/
def push (a : Attribute) (v : Value) : Attribute :=
  ⟨a.id, appendNew a.values v, appendNew_nodup a.values_nodup v⟩

/-- Adds a value as `push` does, and says whether it was new. -/
def offer (a : Attribute) (v : Value) : Bool × Attribute := if v ∈ a.values then (false, a) else (true, a.push v)

def extend (a : Attribute) (vs : List Value) : Attribute :=
  ⟨a.id, appendAllNew a.values vs, appendAllNew_nodup a.values_nodup vs⟩

/-- The attribute with these values, each at its first appearance. -/
def ofValues (id : String) (vs : List Value) : Attribute := (empty id).extend vs

/-- The attribute with these texts as string values. -/
def ofStrings (id : String) (texts : List String) : Attribute := ofValues id (texts.map .string)

def contains (a : Attribute) (v : Value) : Bool := v ∈ a.values

def retain (a : Attribute) (p : Value → Bool) : Attribute :=
  ⟨a.id, a.values.filter p, a.values_nodup.filter p⟩

def rename (a : Attribute) (id : String) : Attribute := ⟨id, a.values, a.values_nodup⟩

def size (a : Attribute) : Nat := a.values.length

def isEmpty (a : Attribute) : Bool := a.values.isEmpty

def displays (a : Attribute) : List String := a.values.map Value.display

end Attribute

/-- Attributes by key. The key of an attribute need not be its id. -/
abbrev AttributeMap := Keyed Attribute

namespace AttributeMap

/-- Adds the values of an attribute to those already collected under its id. -/
def merge (m : AttributeMap) (a : Attribute) : AttributeMap :=
  m.alter a.id fun old => (old.getD (Attribute.empty a.id)).extend a.values

def mergeAll (m other : AttributeMap) : AttributeMap := other.values.foldl merge m

/-- The map of a list of attributes by their ids; of two with one id the last one counts. -/
def ofAttributes (attributes : List Attribute) : AttributeMap :=
  Keyed.ofList (attributes.map fun a => (a.id, a))

end AttributeMap

end AttributeRelease
