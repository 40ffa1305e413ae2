import AttributeRelease.Filter.Requirement

/-!
Policies: bundles of rules about single attributes, which apply if their requirement is met. A filter
is a list of policies with distinct ids.
-/

namespace AttributeRelease

/-- Whether a rule releases the values it matches or withholds them. -/
inductive Effect where
  | permit
  | deny
  deriving DecidableEq, Repr

/-- A matcher for the values of one attribute. -/
structure Rule where
  key : String
  matcher : Matcher
  effect : Effect := .permit

/-- Rules that apply where a requirement is met. -/
structure Policy where
  id : String
  requirement : Requirement
  rules : List Rule

/-- A list of policies with distinct ids. -/
structure Filter where
  policies : List Policy
  ids_nodup : (policies.map Policy.id).Nodup

namespace Filter

/-- The first string that occurred before; `seen` are those that did. -/
def firstRepeated (seen : List String) : List String → Option String
  | [] => none
  | id :: rest => if id ∈ seen then some id else firstRepeated (id :: seen) rest

theorem nodup_of_firstRepeated {seen ids : List String} (h : firstRepeated seen ids = none) :
    ids.Nodup ∧ ∀ id ∈ ids, id ∉ seen := by
  induction ids generalizing seen with
  | nil => exact ⟨.nil, nofun⟩
  | cons id rest ih =>
    unfold firstRepeated at h
    split at h
    · exact absurd h nofun
    · rename_i hid
      obtain ⟨hnodup, hseen⟩ := ih h
      refine ⟨List.nodup_cons.2 ⟨fun hmem => hseen id hmem List.mem_cons_self, hnodup⟩, ?_⟩
      intro id' hmem
      rcases List.mem_cons.1 hmem with rfl | hmem
      · exact hid
      · exact fun hs => hseen id' hmem (List.mem_cons_of_mem _ hs)

/-- The filter of some policies, refused if an id comes twice. -/
def ofPolicies (policies : List Policy) : Except FilterError Filter :=
  match h : firstRepeated [] (policies.map Policy.id) with
  | some id => .error (.duplicatePolicy id)
  | none => .ok ⟨policies, (nodup_of_firstRepeated h).1⟩

end Filter

end AttributeRelease
