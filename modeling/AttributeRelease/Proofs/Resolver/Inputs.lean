import AttributeRelease.Proofs.Attribute.Merging
import AttributeRelease.Resolver.Pursuit

/-!
What nodes work from. An edge lets through the attribute that it names, or all that the node it leads to gives. Under
each id, the input of a node has the values that came over its edges, in the order of the edges and each at its first
appearance. A definition also gets the values of one attribute over each edge, put together in the same way. The maps
that come over the edges have no order that would matter.
-/

namespace AttributeRelease

variable {W : Type}

/-- An edge leads to all attributes, or to that of this id. -/
def Dependency.LetsThrough (d : Dependency) (id : String) : Prop := d.key = none ∨ d.key = some id

instance (d : Dependency) (id : String) : Decidable (d.LetsThrough id) :=
  inferInstanceAs (Decidable (d.key = none ∨ d.key = some id))

/-- The attribute of which a definition gets the values over an edge: the one that the edge names; else that of the
definition the edge leads to; else the one that the definition calls its source, or its own. -/
inductive DefinitionNode.Takes (g : Graph W) (d : DefinitionNode) : Dependency → String → Prop
  | named {node key : String} : Takes g d ⟨node, some key⟩ key
  | derived {node : String} {d' : DefinitionNode} (h : g.node? node = some (.definition d')) :
    Takes g d ⟨node, none⟩ node
  | fetched {node : String} (h : ∀ d', g.node? node ≠ some (.definition d')) :
    Takes g d ⟨node, none⟩ (d.sourceKey.getD d.id)

namespace Supply

/-- What comes over edges that lead to nodes with these outcomes. -/
def ofOutcomes (dependencies : List Dependency) (outcomes : List Outcome) : List Supply :=
  List.zipWith (fun d o => ⟨d, o.attributes⟩) dependencies outcomes

/-- An attribute of an id comes over the edge. -/
def Contributes (s : Supply) (id : String) : Prop := s.dependency.LetsThrough id ∧ (s.attributes.get? id).isSome

/-- The values of the attribute of an id that come over the edge. -/
def brought (s : Supply) (id : String) : List Value :=
  if s.dependency.LetsThrough id then s.attributes.valuesOf id else []

/-- A map has an attribute for each id of which one comes over some edge, with the values of all that come. -/
def Gathered (supplies : List Supply) (m : AttributeMap) : Prop :=
  ∀ id a, m.get? id = some a ↔ (∃ s ∈ supplies, s.Contributes id) ∧ a.id = id ∧
    a.values = (supplies.flatMap (brought · id)).eraseDups

variable {s s' : Supply} {supplies supplies' : List Supply} {m m' : AttributeMap} {id : String} {v : Value}

theorem filter_contribution (h : s.attributes.IsKeyed) (id : String) :
    s.contribution.filter (·.id = id) = if s.dependency.LetsThrough id then (s.attributes.get? id).toList else [] := by
  rw [contribution]
  cases hkey : s.dependency.key with
  | none => rw [if_pos (.inl hkey), h.filter_values]
  | some key =>
    have hid : ∀ a ∈ (s.attributes.get? key).toList, a.id = key := fun a ha =>
      AttributeMap.isKeyed_iff.1 h key a (Option.mem_toList.1 ha)
    by_cases hsame : key = id
    · subst hsame
      rw [if_pos (.inr hkey), List.filter_eq_self.2 fun a ha => decide_eq_true (hid a ha)]
    · have hother : ¬ s.dependency.LetsThrough id := by simp [Dependency.LetsThrough, hkey, hsame]
      rw [if_neg hother, List.filter_eq_nil_iff]
      intro a ha heq
      exact hsame ((hid a ha).symm.trans (of_decide_eq_true heq))

theorem exists_contribution_iff (h : s.attributes.IsKeyed) : (∃ a ∈ s.contribution, a.id = id) ↔ s.Contributes id := by
  have hfilter : (∃ a ∈ s.contribution, a.id = id) ↔ ∃ a, a ∈ s.contribution.filter (·.id = id) := by simp
  rw [hfilter, filter_contribution h, Contributes]
  by_cases hthrough : s.dependency.LetsThrough id
  · simp [hthrough, Option.isSome_iff_exists]
  · simp [hthrough]

theorem flatMap_filter_contribution (h : s.attributes.IsKeyed) (id : String) :
    (s.contribution.filter (·.id = id)).flatMap Attribute.values = s.brought id := by
  rw [filter_contribution h, brought, AttributeMap.valuesOf]
  by_cases hthrough : s.dependency.LetsThrough id
  · cases s.attributes.get? id <;> simp [hthrough]
  · simp [hthrough]

/-- A value that comes over an edge is one of an attribute that does. -/
theorem contributes_of_mem_brought (h : v ∈ s.brought id) : s.Contributes id := by
  rw [brought] at h
  split at h
  · next hthrough =>
    refine ⟨hthrough, ?_⟩
    cases hget : s.attributes.get? id with
    | none =>
      rw [AttributeMap.valuesOf, hget] at h
      cases h
    | some a => rfl
  · cases h

theorem gather_eq (supplies : List Supply) :
    gather supplies = (supplies.flatMap contribution).foldl AttributeMap.merge .empty := List.foldl_flatMap.symm

theorem flatMap_filter_contributions (h : ∀ s ∈ supplies, s.attributes.IsKeyed) (id : String) :
    ((supplies.flatMap contribution).filter (·.id = id)).flatMap Attribute.values =
      supplies.flatMap (brought · id) := by
  induction supplies with
  | nil => rfl
  | cons s rest ih =>
    obtain ⟨hs, hrest⟩ := List.forall_mem_cons.1 h
    rw [List.flatMap_cons, List.filter_append, List.flatMap_append, flatMap_filter_contribution hs, ih hrest,
      List.flatMap_cons]

theorem gathered_gather (h : ∀ s ∈ supplies, s.attributes.IsKeyed) : Gathered supplies (gather supplies) := by
  intro id a
  have hsome : (∃ b ∈ supplies.flatMap contribution, b.id = id) ↔ ∃ s ∈ supplies, s.Contributes id := by
    constructor
    · rintro ⟨b, hb, hid⟩
      obtain ⟨s, hs, hb⟩ := List.mem_flatMap.1 hb
      exact ⟨s, hs, (exists_contribution_iff (h s hs)).1 ⟨b, hb, hid⟩⟩
    · rintro ⟨s, hs, hcontributes⟩
      obtain ⟨b, hb, hid⟩ := (exists_contribution_iff (h s hs)).2 hcontributes
      exact ⟨b, List.mem_flatMap.2 ⟨s, hs, hb⟩, hid⟩
  rw [gather_eq, AttributeMap.get?_foldl_merge_iff, hsome, flatMap_filter_contributions h]

theorem Gathered.mem (h : Gathered supplies m) (hs : s ∈ supplies) (hv : v ∈ s.brought id) :
    ∃ a, m.get? id = some a ∧ v ∈ a.values := by
  refine ⟨⟨id, _, nodup_eraseDups _⟩, (h id _).2 ⟨⟨s, hs, contributes_of_mem_brought hv⟩, rfl, rfl⟩, ?_⟩
  exact List.mem_eraseDups.2 (List.mem_flatMap.2 ⟨s, hs, hv⟩)

/-- Nothing else is gathered of what comes over some edges. -/
theorem Gathered.get?_eq (h : Gathered supplies m) (h' : Gathered supplies m') (id : String) : m.get? id = m'.get? id :=
  Option.ext fun a => (h id a).trans (h' id a).symm

end Supply

/-! ### The values that a definition takes -/

namespace DefinitionNode

open Supply (ofOutcomes Gathered)

variable {g : Graph W} {d : DefinitionNode} {dependency : Dependency} {key : String} {keys : List String}

theorem exists_takes (g : Graph W) (d : DefinitionNode) (dependency : Dependency) :
    ∃ key, d.Takes g dependency key := by
  obtain ⟨node, key⟩ := dependency
  cases key with
  | some key => exact ⟨key, .named⟩
  | none =>
    by_cases h : ∃ d', g.node? node = some (.definition d')
    · obtain ⟨d', hd'⟩ := h
      exact ⟨node, .derived hd'⟩
    · exact ⟨_, .fetched fun d' hd' => h ⟨d', hd'⟩⟩

theorem exists_takes_all (g : Graph W) (d : DefinitionNode) (dependencies : List Dependency) :
    ∃ keys, List.Forall₂ (d.Takes g) dependencies keys := by
  induction dependencies with
  | nil => exact ⟨[], .nil⟩
  | cons first rest ih =>
    obtain ⟨key, hkey⟩ := exists_takes g d first
    obtain ⟨keys, hkeys⟩ := ih
    exact ⟨key :: keys, .cons hkey hkeys⟩

theorem Takes.letsThrough (h : d.Takes g dependency key) : dependency.LetsThrough key := by
  cases h with
  | named => exact .inr rfl
  | derived | fetched => exact .inl rfl

theorem Takes.sourceValues_eq (h : d.Takes g dependency key) (m : AttributeMap) :
    Supply.sourceValues ⟨dependency, m⟩ g.isDefinition d.source = m.valuesOf key := by
  cases h with
  | named => rfl
  | derived h =>
    have hdefinition : g.isDefinition key = true := by rw [Graph.isDefinition, h]; rfl
    simp only [Supply.sourceValues, hdefinition, if_true]
    rfl
  | @fetched node h =>
    have hother : g.isDefinition node = false := by
      rw [Graph.isDefinition]
      cases hnode : g.node? node with
      | none => rfl
      | some n =>
        cases n with
        | definition d' => exact absurd hnode (h d')
        | connector c => rfl
    simp only [Supply.sourceValues, hother, Bool.false_eq_true, if_false]
    rfl

theorem flatMap_sourceValues {dependencies : List Dependency} (hkeys : List.Forall₂ (d.Takes g) dependencies keys)
    (outcomes : List Outcome) :
    (ofOutcomes dependencies outcomes).flatMap (fun s => s.sourceValues g.isDefinition d.source) =
      (keys.zip outcomes).flatMap fun e => e.2.attributes.valuesOf e.1 := by
  induction hkeys generalizing outcomes with
  | nil => rfl
  | cons hkey _ ih =>
    cases outcomes with
    | nil => rfl
    | cons o rest =>
      rw [ofOutcomes, List.zipWith_cons_cons, List.zip_cons_cons, List.flatMap_cons, List.flatMap_cons,
        hkey.sourceValues_eq, ← ih rest]
      rfl

/-- The values that a definition gets are those of one attribute over each edge, each at its first appearance. -/
theorem values_input (d : DefinitionNode) (isDefinition : String → Bool) (request : Request) (supplies : List Supply) :
    (d.input isDefinition request supplies).values =
      (supplies.flatMap fun s => s.sourceValues isDefinition d.source).eraseDups := foldl_appendAllNew _ _

/-- What a definition takes over an edge comes over it. -/
theorem exists_brought_of_mem_sourceValues {s : Supply} {v : Value}
    (hv : v ∈ s.sourceValues g.isDefinition d.source) : ∃ id, v ∈ s.brought id := by
  obtain ⟨key, hkey⟩ := exists_takes g d s.dependency
  have hvalues : s.sourceValues g.isDefinition d.source = s.attributes.valuesOf key := hkey.sourceValues_eq s.attributes
  refine ⟨key, ?_⟩
  rwa [Supply.brought, if_pos hkey.letsThrough, ← hvalues]

theorem exists_of_mem_values {request : Request} {supplies : List Supply} {m : AttributeMap} {v : Value}
    (hgathered : Gathered supplies m) (hv : v ∈ (d.input g.isDefinition request supplies).values) :
    ∃ id a, m.get? id = some a ∧ v ∈ a.values := by
  rw [values_input, List.mem_eraseDups, List.mem_flatMap] at hv
  obtain ⟨s, hs, hv⟩ := hv
  obtain ⟨id, hv⟩ := exists_brought_of_mem_sourceValues hv
  exact ⟨id, hgathered.mem hs hv⟩

end DefinitionNode

namespace Supply

variable {s s' : Supply} {supplies supplies' : List Supply} {m : AttributeMap}

/-- The same comes over an edge, in whatever order. -/
structure Same (s s' : Supply) : Prop where
  dependency : s.dependency = s'.dependency
  attributes (id : String) : s.attributes.get? id = s'.attributes.get? id

theorem Same.contributes_iff (h : s.Same s') (id : String) : s.Contributes id ↔ s'.Contributes id := by
  rw [Contributes, Contributes, h.dependency, h.attributes]

theorem Same.brought_eq (h : s.Same s') (id : String) : s.brought id = s'.brought id := by
  rw [brought, brought, AttributeMap.valuesOf, AttributeMap.valuesOf, h.dependency, h.attributes]

theorem Same.sourceValues_eq (h : s.Same s') (isDefinition : String → Bool) (source : String) :
    s.sourceValues isDefinition source = s'.sourceValues isDefinition source := by
  simp only [sourceValues, h.dependency, h.attributes]

theorem flatMap_congr_of_same {f : Supply → List Value} (h : List.Forall₂ Same supplies supplies')
    (hf : ∀ s s', s.Same s' → f s = f s') : supplies.flatMap f = supplies'.flatMap f := by
  induction h with
  | nil => rfl
  | cons hs _ ih => rw [List.flatMap_cons, List.flatMap_cons, hf _ _ hs, ih]

theorem exists_contributes_congr (h : List.Forall₂ Same supplies supplies') (id : String) :
    (∃ s ∈ supplies, s.Contributes id) ↔ ∃ s ∈ supplies', s.Contributes id := by
  induction h with
  | nil => exact Iff.rfl
  | cons hs _ ih => rw [List.exists_mem_cons_iff, List.exists_mem_cons_iff, hs.contributes_iff, ih]

theorem Gathered.congr (hsame : List.Forall₂ Same supplies supplies') (h : Gathered supplies' m) :
    Gathered supplies m := by
  intro id a
  rw [h id a, exists_contributes_congr hsame, flatMap_congr_of_same hsame fun _ _ hs => hs.brought_eq id]

theorem values_input_congr (h : List.Forall₂ Same supplies supplies') (d : DefinitionNode)
    (isDefinition : String → Bool) (request : Request) :
    (d.input isDefinition request supplies).values = (d.input isDefinition request supplies').values := by
  rw [d.values_input, d.values_input,
    flatMap_congr_of_same h fun _ _ hs => hs.sourceValues_eq isDefinition d.source]

theorem ofOutcomes_same {outcomes outcomes' : List Outcome} (dependencies : List Dependency)
    (h : List.Forall₂ (fun o o' => o.attributes.entries.Perm o'.attributes.entries) outcomes outcomes') :
    List.Forall₂ Same (ofOutcomes dependencies outcomes) (ofOutcomes dependencies outcomes') := by
  induction h generalizing dependencies with
  | nil => cases dependencies <;> exact .nil
  | cons hperm _ ih =>
    cases dependencies with
    | nil => exact .nil
    | cons d rest => exact .cons ⟨rfl, Keyed.get?_of_perm hperm⟩ (ih rest)

theorem isKeyed_of_mem_ofOutcomes {outcomes : List Outcome} (h : ∀ o ∈ outcomes, o.attributes.IsKeyed)
    (dependencies : List Dependency) : ∀ s ∈ ofOutcomes dependencies outcomes, s.attributes.IsKeyed := by
  induction outcomes generalizing dependencies with
  | nil => cases dependencies <;> exact List.forall_mem_nil _
  | cons o rest ih =>
    obtain ⟨ho, hrest⟩ := List.forall_mem_cons.1 h
    cases dependencies with
    | nil => exact List.forall_mem_nil _
    | cons d ds => exact List.forall_mem_cons.2 ⟨ho, ih hrest ds⟩

theorem isKeyed_of_forall₂_perm {outcomes outcomes' : List Outcome}
    (hperm : List.Forall₂ (fun o o' => o.attributes.entries.Perm o'.attributes.entries) outcomes outcomes')
    (h : ∀ o ∈ outcomes, o.attributes.IsKeyed) : ∀ o ∈ outcomes', o.attributes.IsKeyed := by
  induction hperm with
  | nil => exact h
  | cons hentries _ ih =>
    obtain ⟨ho, hrest⟩ := List.forall_mem_cons.1 h
    exact List.forall_mem_cons.2 ⟨fun e he => ho e (hentries.mem_iff.2 he), ih hrest⟩

end Supply

open Supply (ofOutcomes Gathered gather)

/-- The input of a definition that depends on nodes with these outcomes. -/
structure DefinitionNode.Receives (g : Graph W) (d : DefinitionNode) (outcomes : List Outcome)
    (input : DefinitionInput) : Prop where
  values : ∃ keys, List.Forall₂ (d.Takes g) d.dependencies keys ∧
    input.values = ((keys.zip outcomes).flatMap fun e => e.2.attributes.valuesOf e.1).eraseDups
  attributes : Gathered (ofOutcomes d.dependencies outcomes) input.attributes
  /-- No value is there that is not a value of some attribute. -/
  covered : ∀ v ∈ input.values, ∃ id a, input.attributes.get? id = some a ∧ v ∈ a.values

theorem DefinitionNode.receives_input {outcomes : List Outcome} (h : ∀ o ∈ outcomes, o.attributes.IsKeyed) (g : Graph W)
    (d : DefinitionNode) (request : Request) :
    d.Receives g outcomes (d.input g.isDefinition request (ofOutcomes d.dependencies outcomes)) := by
  have hgathered := Supply.gathered_gather (Supply.isKeyed_of_mem_ofOutcomes h d.dependencies)
  obtain ⟨keys, hkeys⟩ := exists_takes_all g d d.dependencies
  refine ⟨⟨keys, hkeys, ?_⟩, hgathered, fun v hv => exists_of_mem_values hgathered hv⟩
  rw [values_input, flatMap_sourceValues hkeys]

namespace Resolver

/-- What a node works from is what came of the nodes it depends on. -/
theorem Pursuit.supplies_eq {s : Session W} {dependencies : List Dependency} {outcomes : List Outcome}
    (h : List.Forall₂ (fun d o => s.outcome? d.node = some o) dependencies outcomes) :
    supplies s dependencies = ofOutcomes dependencies outcomes := by
  induction h with
  | nil => rfl
  | @cons d o _ _ hd _ ih =>
    have hattributes : s.attributesOf d.node = o.attributes := by rw [Session.attributesOf, hd]; rfl
    rw [supplies, List.map_cons, hattributes, ofOutcomes, List.zipWith_cons_cons]
    exact congrArg _ ih

/-- **The input of a node is what comes over its edges.** Of the nodes that it depends on come maps by id, none from a
node that failed and was let go. A definition gets the values of one attribute over each edge, in the order of the edges
and each at its first appearance, and all of them are among the attributes that it gets. These, and those that a
connector gets, are the attributes that come over the edges, with the values of each put together in the same order, and
no others. The maps may stand in any order. So a session that has the outcomes computes and fetches. -/
theorem inputs_hold_what_comes (g : Graph W) (outcomes : List Outcome)
    (hkeyed : ∀ o ∈ outcomes, o.attributes.IsKeyed) :
    (∀ (d : DefinitionNode) request,
      d.Receives g outcomes (d.input g.isDefinition request (ofOutcomes d.dependencies outcomes))) ∧
    (∀ c : ConnectorNode W,
      Gathered (ofOutcomes c.dependencies outcomes) (gather (ofOutcomes c.dependencies outcomes))) ∧
    (∀ outcomes' : List Outcome,
      List.Forall₂ (fun o o' => o.attributes.entries.Perm o'.attributes.entries) outcomes outcomes' →
        (∀ (d : DefinitionNode) request,
          (d.input g.isDefinition request (ofOutcomes d.dependencies outcomes)).values =
            (d.input g.isDefinition request (ofOutcomes d.dependencies outcomes')).values) ∧
        ∀ dependencies id, (gather (ofOutcomes dependencies outcomes)).get? id =
          (gather (ofOutcomes dependencies outcomes')).get? id) ∧
    ∀ s : Session W,
      (∀ d : DefinitionNode, List.Forall₂ (fun e o => s.outcome? e.node = some o) d.dependencies outcomes →
        Pursuit.computation g d s =
          (d.compute (d.input g.isDefinition s.call.request (ofOutcomes d.dependencies outcomes))).mapError
            (.definition d.id)) ∧
      ∀ c : ConnectorNode W, List.Forall₂ (fun e o => s.outcome? e.node = some o) c.dependencies outcomes →
        Pursuit.fetchInput c s = ⟨s.call.request, gather (ofOutcomes c.dependencies outcomes)⟩ := by
  have hgathered : ∀ dependencies,
      Gathered (ofOutcomes dependencies outcomes) (gather (ofOutcomes dependencies outcomes)) :=
    fun dependencies => Supply.gathered_gather (Supply.isKeyed_of_mem_ofOutcomes hkeyed dependencies)
  refine ⟨fun d request => d.receives_input hkeyed g request, fun c => hgathered c.dependencies, ?_, ?_⟩
  · intro outcomes' hperm
    have hsame := fun dependencies => Supply.ofOutcomes_same dependencies hperm
    refine ⟨fun d request => Supply.values_input_congr (hsame d.dependencies) d g.isDefinition request,
      fun dependencies => ?_⟩
    have hkeyed' := Supply.isKeyed_of_forall₂_perm hperm hkeyed
    have hgathered' := Supply.gathered_gather (Supply.isKeyed_of_mem_ofOutcomes hkeyed' dependencies)
    exact (hgathered dependencies).get?_eq (hgathered'.congr (hsame dependencies))
  · intro s
    refine ⟨fun d h => ?_, fun c h => ?_⟩
    · rw [Pursuit.computation, Pursuit.supplies_eq h]
    · rw [Pursuit.fetchInput, Pursuit.supplies_eq h]

/-! A definition that depends on another definition, on all and on one of the attributes of a connector, and on a
connector that failed and was let go. -/

namespace Overlapping

def card : DefinitionNode where
  id := "card"
  dependencies := [⟨"mail", none⟩, ⟨"directory", none⟩, ⟨"staff", none⟩, ⟨"directory", some "cn"⟩]
  definition := .simple

def nodes : List (Node Unit) :=
  [.definition { id := "mail", definition := .principal },
    .connector { id := "directory", connector := .constant .empty },
    .connector { id := "staff", propagatesErrors := false, connector := .constant .empty }, .definition card]

def graph : Graph Unit := ⟨nodes, by decide⟩

def mail : AttributeMap := .ofAttributes [.ofStrings "mail" ["alice", "a.smith"]]

def directory : AttributeMap :=
  .ofAttributes [.ofStrings "cn" ["Alice", "a.smith"], .ofStrings "card" ["a.smith", "4711"], .empty "uid"]

def outcomes : List Outcome :=
  [.resolved mail, .resolved directory, .suppressed (.connector "staff" (.backend "down")), .resolved directory]

def input : DefinitionInput :=
  card.input graph.isDefinition { principal := "alice" } (ofOutcomes card.dependencies outcomes)

/-- The values are those of `mail` from the definition, of `card` from all of the directory, and of `cn` by name; the
attribute without values is there too. -/
theorem inputs_hold_what_comes_of_overlapping :
    (∀ o ∈ outcomes, o.attributes.IsKeyed) ∧
      input.values = ["alice", "a.smith", "4711", "Alice"].map .string ∧
      input.attributes.keys = ["mail", "cn", "card", "uid"] ∧ card.Receives graph outcomes input := by
  have hkeyed : ∀ o ∈ outcomes, o.attributes.IsKeyed := by decide
  exact ⟨hkeyed, by decide, by decide, (inputs_hold_what_comes graph outcomes hkeyed).1 card _⟩

end Overlapping

end Resolver

end AttributeRelease
