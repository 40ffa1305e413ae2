import AttributeRelease.Proofs.Attribute.Merging
import AttributeRelease.Proofs.Resolver.Provenance

/-!
What calls give out. The nodes that a call starts from are listed, and the attributes that it returns are read off
what these nodes were settled with: under each id the values that the definition of that name gave, then those of
the connectors that let that attribute out. Every value was computed for such a definition, or was fetched for such
a connector, by itself or by one that stood in for it. Whether the one that stood in lets the attribute out itself
is not asked.
-/

namespace AttributeRelease

namespace Resolver

variable {W : Type}

/-- The members of a list with some property, in their order. -/
structure Selects {α : Type} (all : List α) (p : α → Prop) (selected : List α) : Prop where
  sublist : selected.Sublist all
  mem : ∀ x, x ∈ selected ↔ x ∈ all ∧ p x

theorem selects_filter {α : Type} {all : List α} {p : α → Prop} {q : α → Bool} (h : ∀ x, q x = true ↔ p x) :
    Selects all p (all.filter q) where
  sublist := List.filter_sublist
  mem x := by rw [List.mem_filter, h]

/-- Whether a node is asked for when everything is: an exported definition, or a connector of its own that exports
something. -/
def IsExported (g : Graph W) : Node W → Prop
  | .definition d => d.exported = true
  | .connector c => (∀ m ∈ g.nodes, m.failover ≠ some c.id) ∧ c.exportedKeys ≠ some []

/-- Whether a node is asked for when an attribute is: the definition of that name, or a connector of its own that
exports it. -/
def Contributes (g : Graph W) (key : String) : Node W → Prop
  | .definition d => d.id = key
  | .connector c => (∀ m ∈ g.nodes, m.failover ≠ some c.id) ∧ ∀ keys, c.exportedKeys = some keys → key ∈ keys

/-- The nodes that a call starts from. -/
structure StartsFrom (g : Graph W) (requested : List String) (roots : List (Node W)) : Prop where
  known : ∀ n ∈ roots, n ∈ g.nodes
  everything : requested = [] → Selects g.nodes (IsExported g) roots
  named : requested ≠ [] → ∃ candidates : String → List (Node W),
    (∀ key, Selects g.nodes (Contributes g key) (candidates key)) ∧
      roots.map Node.id = ((requested.flatMap candidates).map Node.id).eraseDups

section

variable {g : Graph W}

theorem isFailoverTarget_eq_false_iff {id : String} :
    g.isFailoverTarget id = false ↔ ∀ m ∈ g.nodes, m.failover ≠ some id := by
  simp [Graph.isFailoverTarget]

theorem exports_iff {c : ConnectorNode W} {key : String} :
    c.exports key = true ↔ ∀ keys, c.exportedKeys = some keys → key ∈ keys := by
  cases h : c.exportedKeys <;> simp [ConnectorNode.exports, h]

theorem isExported_iff (n : Node W) : g.isExported n = true ↔ IsExported g n := by
  cases n with
  | definition d => rfl
  | connector c =>
    rw [Graph.isExported, IsExported, Bool.and_eq_true, Bool.not_eq_true', isFailoverTarget_eq_false_iff]
    refine and_congr_right fun _ => ?_
    cases h : c.exportedKeys <;> simp [ConnectorNode.exportsAnything, h]

theorem produces_iff (key : String) (n : Node W) : g.produces key n = true ↔ Contributes g key n := by
  cases n with
  | definition d => simp [Graph.produces, Contributes]
  | connector c =>
    rw [Graph.produces, Contributes, Bool.and_eq_true, Bool.not_eq_true', isFailoverTarget_eq_false_iff, exports_iff]

/-- Nodes are appended by their ids. -/
theorem map_foldl_appendNode (candidates roots : List (Node W)) :
    (candidates.foldl Graph.appendNode roots).map Node.id =
      (candidates.map Node.id).foldl (fun ids id => if id ∈ ids then ids else ids ++ [id]) (roots.map Node.id) := by
  induction candidates generalizing roots with
  | nil => rfl
  | cons n rest ih =>
    have hnew : (Graph.appendNode roots n).map Node.id =
        if n.id ∈ roots.map Node.id then roots.map Node.id else roots.map Node.id ++ [n.id] := by
      unfold Graph.appendNode
      by_cases hn : n.id ∈ roots.map Node.id
      · rw [if_pos hn, if_pos (by simpa using hn)]
      · rw [if_neg hn, if_neg (by simpa using hn), List.map_append, List.map_singleton]
    rw [List.foldl_cons, ih, hnew, List.map_cons, List.foldl_cons]

theorem map_roots (requested : List String) (h : requested ≠ []) : (g.roots requested).map Node.id =
    ((requested.flatMap fun key => g.nodes.filter (g.produces key)).map Node.id).eraseDups := by
  have hall : ∀ (keys : List String) (roots : List (Node W)),
      keys.foldl (fun roots key => (g.nodes.filter (g.produces key)).foldl Graph.appendNode roots) roots =
        (keys.flatMap fun key => g.nodes.filter (g.produces key)).foldl Graph.appendNode roots := by
    intro keys
    induction keys with
    | nil => exact fun _ => rfl
    | cons key rest ih =>
      intro roots
      rw [List.foldl_cons, ih, List.flatMap_cons, List.foldl_append]
  rw [Graph.roots, if_neg (by simpa using h), hall, map_foldl_appendNode, List.map_nil, foldl_appendNew,
    List.nil_append, List.filter_eq_self.2 fun id _ => by simp]

theorem startsFrom_roots (g : Graph W) (requested : List String) : StartsFrom g requested (g.roots requested) where
  known _ hn := Graph.mem_of_mem_roots g requested hn
  everything h := by
    subst h
    exact selects_filter isExported_iff
  named h := ⟨_, fun key => selects_filter (produces_iff key), map_roots requested h⟩

end

/-- The attributes that a node was settled with. -/
def recorded (outcomes : List (String × Outcome)) (id : String) : AttributeMap :=
  (outcomes.lookup id).elim .empty Outcome.attributes

/-- The values that an exported definition gives under its name. -/
def derivedValues (key : String) : Node W × AttributeMap → List Value
  | (.definition d, m) => if d.exported = true ∧ d.id = key then m.valuesOf key else []
  | (.connector _, _) => []

/-- The values that a connector gives under an id that it exports. -/
def fetchedValues (key : String) : Node W × AttributeMap → List Value
  | (.definition _, _) => []
  | (.connector c, m) => if c.exports key = true then m.valuesOf key else []

/-- The values under an id: those that were derived, then those that were fetched. -/
def contributed (outputs : List (Node W × AttributeMap)) (key : String) : List Value :=
  outputs.flatMap (derivedValues key) ++ outputs.flatMap (fetchedValues key)

section

open AttributeMap

variable {outputs : List (Node W × AttributeMap)} {key : String}

theorem flatMap_ownAttribute {o : Node W × AttributeMap} (hkeyed : o.2.IsKeyed) :
    ((ownAttribute o).toList.filter (·.id = key)).flatMap Attribute.values = derivedValues key o := by
  obtain ⟨n, m⟩ := o
  cases n with
  | connector c => rfl
  | definition d =>
    simp only [ownAttribute, derivedValues]
    by_cases hexported : d.exported = true
    · rw [if_pos hexported]
      cases ha : m.get? d.id with
      | none =>
        split
        · next hd => rw [valuesOf, ← hd.2, ha]; rfl
        · rfl
      | some a =>
        have hid : a.id = d.id := isKeyed_iff.1 hkeyed d.id a ha
        by_cases hkey : d.id = key
        · rw [if_pos ⟨hexported, hkey⟩, valuesOf_of_get? (hkey ▸ ha)]
          simp [hid, hkey]
        · rw [if_neg fun h => hkey h.2]
          simp [hid, hkey]
    · rw [if_neg hexported, if_neg fun h => hexported h.1]
      rfl

theorem flatMap_fetchedAttributes {o : Node W × AttributeMap} (hkeyed : o.2.IsKeyed) :
    ((fetchedAttributes o).filter (·.id = key)).flatMap Attribute.values = fetchedValues key o := by
  obtain ⟨n, m⟩ := o
  cases n with
  | definition d => rfl
  | connector c =>
    simp only [fetchedAttributes, fetchedValues]
    have hsame : (m.values.filter fun a => c.exports a.id).filter (·.id = key) =
        if c.exports key = true then m.values.filter (·.id = key) else [] := by
      rw [List.filter_filter]
      split
      · next hexports =>
        refine List.filter_congr fun a _ => ?_
        by_cases ha : a.id = key <;> simp [ha, hexports]
      · next hexports =>
        refine List.filter_eq_nil_iff.2 fun a _ => ?_
        by_cases ha : a.id = key <;> simp [ha, hexports]
    rw [hsame, hkeyed.filter_values]
    split
    · rw [valuesOf]
      cases m.get? key <;> simp
    · rfl

/-- The attributes that are merged have these values under an id. -/
theorem flatMap_attributes (hkeyed : ∀ o ∈ outputs, o.2.IsKeyed) :
    ((outputs.filterMap ownAttribute ++ outputs.flatMap fetchedAttributes).filter (·.id = key)).flatMap
      Attribute.values = contributed outputs key := by
  rw [List.filterMap_eq_flatMap_toList, List.filter_append, List.flatMap_append, List.filter_flatMap,
    List.filter_flatMap, List.flatMap_assoc, List.flatMap_assoc, contributed]
  congr 1
  · exact List.flatMap_congr fun o ho => flatMap_ownAttribute (hkeyed o ho)
  · exact List.flatMap_congr fun o ho => flatMap_fetchedAttributes (hkeyed o ho)

/-- **What is given out under an id.** -/
theorem get?_released (requested : List String) (hkeyed : ∀ o ∈ outputs, o.2.IsKeyed) (a : Attribute) :
    (released requested outputs).get? key = some a ↔ (requested = [] ∨ key ∈ requested) ∧
      contributed outputs key ≠ [] ∧ a.id = key ∧ a.values = (contributed outputs key).eraseDups := by
  have hmerged := get?_foldl_merge (outputs.filterMap ownAttribute ++ outputs.flatMap fetchedAttributes) key a
  rw [flatMap_attributes hkeyed] at hmerged
  have hnil : (contributed outputs key).eraseDups = [] ↔ contributed outputs key = [] := by
    cases contributed outputs key <;> simp [List.eraseDups_cons]
  rw [released, Keyed.get?_filter, Option.filter_eq_some_iff]
  constructor
  · rintro ⟨ha, hp⟩
    obtain ⟨hrequested, hvalues⟩ : (requested = [] ∨ key ∈ requested) ∧ a.values ≠ [] := by
      simpa [Attribute.isEmpty] using hp
    obtain ⟨hid, hsame⟩ := (hmerged hvalues).1 ha
    exact ⟨hrequested, fun hnone => hvalues (hsame.trans (hnil.2 hnone)), hid, hsame⟩
  · rintro ⟨hrequested, hsome, hid, hsame⟩
    have hvalues : a.values ≠ [] := fun hnone => hsome (hnil.1 (hsame.symm.trans hnone))
    refine ⟨(hmerged hvalues).2 ⟨hid, hsame⟩, ?_⟩
    simpa [Attribute.isEmpty] using ⟨hrequested, hvalues⟩

/-- Whoever is given out a value was merged with it. -/
theorem mem_released {requested : List String} {a : Attribute} {v : Value}
    (ha : (released requested outputs).get? key = some a) (hv : v ∈ a.values) :
    ∃ b ∈ outputs.filterMap ownAttribute ++ outputs.flatMap fetchedAttributes, b.id = key ∧ v ∈ b.values := by
  rw [released, Keyed.get?_filter, Option.filter_eq_some_iff] at ha
  have hvalues : a.values ≠ [] := List.ne_nil_of_mem hv
  obtain ⟨-, hsame⟩ := (get?_foldl_merge _ key a hvalues).1 ha.1
  rw [hsame, List.mem_eraseDups, List.mem_flatMap] at hv
  obtain ⟨b, hb, hvb⟩ := hv
  obtain ⟨hmem, hid⟩ := List.mem_filter.1 hb
  exact ⟨b, hmem, of_decide_eq_true hid, hvb⟩

end

/-! ### What nodes gave -/

section

variable {g : Graph W} {s : Session W} {call : Nat} {log : List Event}

theorem get?_ofAttributes (a : Attribute) (key : String) :
    (AttributeMap.ofAttributes [a]).get? key = if key = a.id then some a else none := by
  change (Keyed.insert .empty a.id a).get? key = _
  rw [Keyed.insert, Keyed.get?_alter]
  rfl

theorem isKeyed_ofAttributes (a : Attribute) : (AttributeMap.ofAttributes [a]).IsKeyed := by
  rw [AttributeMap.isKeyed_iff]
  intro key b hb
  rw [get?_ofAttributes] at hb
  split at hb
  · next hkey =>
    obtain rfl := Option.some.inj hb
    exact hkey.symm
  · cases hb

/-- A definition gives an attribute of its own name, and a connector what it fetched. -/
theorem CameTo.gave {n : Node W} {m : AttributeMap} (h : CameTo g s n (.ok m)) :
    (∃ d values, n = .definition d ∧ m = .ofAttributes [.ofValues d.id values]) ∨
      ∃ c, n = .connector c ∧ (c.connector (Pursuit.fetchInput c s)).Gives (.ok m) := by
  generalize hr : (.ok m : Except ResolutionError AttributeMap) = r at h
  cases h with
  | @computed d =>
    rw [Pursuit.computation, DefinitionNode.compute] at hr
    cases hd : d.definition (d.input g.isDefinition s.call.request (Pursuit.supplies s d.dependencies)) with
    | error e =>
      rw [hd] at hr
      cases hr
    | ok values =>
      rw [hd] at hr
      cases hr
      exact .inl ⟨d, values, rfl, rfl⟩
  | @fetched c x _ _ _ hx =>
    cases x with
    | error e => cases hr
    | ok m' =>
      cases hr
      rcases hx with hgives | ⟨hlate, -⟩
      · exact .inr ⟨c, rfl, hgives⟩
      · cases hlate

/-- What connectors give by id is given by id by all nodes. -/
theorem Traced.isKeyed (h : Traced g s)
    (hconnectors : ∀ c m, g.node? c.id = some (.connector c) → .gave s.call.number c.id m ∈ s.shared.log → m.IsKeyed)
    {id : String} {m : AttributeMap} (hgave : .gave s.call.number id m ∈ s.shared.log) : m.IsKeyed := by
  obtain ⟨n, rfl, hcame⟩ := h.came id (.ok m) hgave
  rcases hcame.gave with ⟨d, values, rfl, rfl⟩ | ⟨c, rfl, -⟩
  · exact isKeyed_ofAttributes _
  · exact hconnectors c m hcame.node hgave

theorem Derived.isKeyed {id : String} {o : Outcome} (h : Derived g call log id o)
    (hgave : ∀ id m, .gave call id m ∈ log → m.IsKeyed) : o.attributes.IsKeyed := by
  induction h with
  | own _ hown => exact hgave _ _ hown
  | adopted _ _ _ _ _ ih => exact ih
  | spared | broken | givenUp | followed => exact AttributeMap.isKeyed_empty

/-- A node and one that stands in for it, after the node and all in between have failed by themselves. -/
inductive StandsIn (g : Graph W) (call : Nat) (log : List Event) : String → String → Prop
  | self {id : String} : StandsIn g call log id id
  | failover {n : Node W} {e : ResolutionError} {failover id : String} (hnode : g.node? n.id = some n)
    (herred : .erred call n.id e ∈ log) (hfailover : n.failover = some failover)
    (h : StandsIn g call log failover id) : StandsIn g call log n.id id

/-- Attributes that a node was settled with were given by one that stands in for it. -/
theorem Derived.source {id : String} {o : Outcome} (h : Derived g call log id o) {key : String} {a : Attribute}
    (ha : (key, a) ∈ o.attributes.entries) :
    ∃ source, StandsIn g call log id source ∧ .gave call source o.attributes ∈ log := by
  induction h with
  | own _ hgave => exact ⟨_, .self, hgave⟩
  | spared | broken | givenUp | followed => cases ha
  | adopted hnode herred hfailover _ _ ih =>
    obtain ⟨source, hstands, hgave⟩ := ih ha
    exact ⟨source, .failover hnode herred hfailover hstands, hgave⟩

/-- Only a connector stands in for a connector. -/
theorem StandsIn.connector {id source : String} (h : StandsIn g call log id source) {c : ConnectorNode W}
    (hc : g.node? id = some (.connector c)) : ∃ c', g.node? source = some (.connector c') := by
  induction h generalizing c with
  | self => exact ⟨c, hc⟩
  | @failover n e failover id hnode _ hfailover _ ih =>
    have hsound := Graph.sound_of_error? g.valid
    obtain ⟨m, hm, rfl, hconnector⟩ := (hsound.resolves n (Graph.findNode_some hnode).1).failover failover hfailover
    cases m with
    | definition d => cases hconnector
    | connector c' => exact ih (Graph.findNode_of_mem hsound.nodup hm)

/-- Nobody stands in for a definition. -/
theorem StandsIn.definition {id source : String} (h : StandsIn g call log id source) {d : DefinitionNode}
    (hd : g.node? id = some (.definition d)) : source = id := by
  cases h with
  | self => rfl
  | failover hnode _ hfailover _ =>
    rw [hnode] at hd
    obtain rfl := Option.some.inj hd
    cases hfailover

/-- An attribute that every failover lets out if the node before it does is let out by whoever stands in. -/
theorem StandsIn.exports {id source key : String} (h : StandsIn g call log id source)
    (hadmits : ∀ c c', g.node? c.id = some (.connector c) → g.node? c'.id = some (.connector c') →
      c.failover = some c'.id → c.exports key = true → c'.exports key = true)
    {c c' : ConnectorNode W} (hc : g.node? id = some (.connector c)) (hc' : g.node? source = some (.connector c'))
    (hexports : c.exports key = true) : c'.exports key = true := by
  induction h generalizing c with
  | self =>
    obtain rfl := Node.connector.inj (Option.some.inj (hc.symm.trans hc'))
    exact hexports
  | @failover n e failover id hnode _ hfailover hstands ih =>
    rw [hnode] at hc
    obtain rfl := Option.some.inj hc
    have hsound := Graph.sound_of_error? g.valid
    obtain ⟨m, hm, rfl, hconnector⟩ := (hsound.resolves _ (Graph.findNode_some hnode).1).failover failover hfailover
    cases m with
    | definition d => cases hconnector
    | connector cover =>
      have hcover := Graph.findNode_of_mem hsound.nodup hm
      exact ih hcover hc' (hadmits c cover hnode hcover hfailover hexports)

end

/-- What a call returns. -/
structure Returned (r : Resolver W) (c : Call W) (sh : Shared W) (res : Resolution) : Prop where
  roots : StartsFrom r.graph c.requested (r.graph.roots c.requested)
  /-- The outcomes are those that the nodes of the call were settled with. -/
  outcomes : ∀ id, res.outcomes.lookup id = Session.outcome? ⟨c, sh⟩ id
  /-- Each comes from what nodes gave and failed with by themselves. -/
  derived : ∀ id o, res.outcomes.lookup id = some o → Derived r.graph c.number sh.log id o
  ended : ∀ n ∈ r.graph.roots c.requested, ∃ o, res.outcomes.lookup n.id = some o ∧ o.standing = .ended
  attributes : ∀ key a, res.attributes.get? key = some a ↔ (c.requested = [] ∨ key ∈ c.requested) ∧
    ∃ values, values = contributed ((r.graph.roots c.requested).map fun n => (n, recorded res.outcomes n.id)) key ∧
      values ≠ [] ∧ a.id = key ∧ a.values = values.eraseDups

/-- The outcomes of a result are those of the nodes of the call. -/
theorem lookup_outcomes (roots : List (Node W)) (s : Session W) (id : String) :
    (resolution roots s).outcomes.lookup id = s.outcome? id := by
  have hsublist : ∀ ids : List String,
      ((ids.filterMap fun id => (s.outcome? id).map (id, ·)).map Prod.fst).Sublist ids := by
    intro ids
    induction ids with
    | nil => exact .slnil
    | cons id rest ih =>
      cases ho : s.outcome? id with
      | none =>
        rw [List.filterMap_cons_none (by rw [ho]; rfl)]
        exact ih.cons id
      | some o =>
        rw [List.filterMap_cons_some (by rw [ho]; rfl)]
        exact ih.cons_cons id
  have hkeys : ((resolution roots s).outcomes.map Prod.fst).Nodup :=
    (hsublist s.call.cells.keys).nodup s.call.cells.keys_nodup
  refine Option.ext fun o => ?_
  rw [Keyed.lookup_eq_some_iff hkeys, resolution, List.mem_filterMap]
  constructor
  · rintro ⟨id', -, ho⟩
    obtain ⟨o', ho', heq⟩ := Option.map_eq_some_iff.1 ho
    cases heq
    exact ho'
  · intro ho
    have hstage := Session.outcome?_eq_some_iff.1 ho
    obtain ⟨cell, hcell, -⟩ := Session.exists_cell (by rw [hstage]; exact nofun)
    exact ⟨id, Keyed.mem_keys_iff.2 ⟨cell, hcell⟩, by rw [ho]; rfl⟩

theorem recorded_outcomes (roots : List (Node W)) (s : Session W) (id : String) :
    recorded (resolution roots s).outcomes id = s.attributesOf id := by
  rw [recorded, lookup_outcomes, Session.attributesOf]

/--
**What is returned.** A call that returns attributes has started from the right nodes, and has settled them all. It
returns under an id that was asked for what they were settled with, if that is anything.
-/
theorem Reachable.returned {r : Resolver W} {passes : Call W → Nat → Prop} {s : Sessions W} {c : Call W}
    {res : Resolution} (hs : Reachable r passes s) (hc : c ∈ s.calls)
    (hreturned : c.ending = some (.returned (.ok res)))
    (hconnectors : ∀ k m, r.graph.node? k.id = some (.connector k) → .gave c.number k.id m ∈ s.shared.log →
      m.IsKeyed) : Returned r c s.shared res := by
  have htraced := hs.traced c hc
  obtain ⟨hended, rfl⟩ := (hs.returns c hc).ok res hreturned
  have hderived : ∀ id o, Session.outcome? ⟨c, s.shared⟩ id = some o →
      Derived r.graph c.number s.shared.log id o := fun id o ho => htraced.derived (Session.outcome?_eq_some_iff.1 ho)
  have hkeyed : ∀ o ∈ (r.graph.roots c.requested).map fun n => (n, Session.attributesOf ⟨c, s.shared⟩ n.id),
      o.2.IsKeyed := by
    intro o ho
    obtain ⟨n, -, rfl⟩ := List.mem_map.1 ho
    dsimp only
    rw [Session.attributesOf]
    cases hn : Session.outcome? ⟨c, s.shared⟩ n.id with
    | none => exact AttributeMap.isKeyed_empty
    | some o => exact (hderived n.id o hn).isKeyed fun id m hgave => htraced.isKeyed hconnectors hgave
  refine ⟨startsFrom_roots r.graph c.requested, lookup_outcomes _ _, fun id o ho => ?_, fun n hn => ?_,
    fun key a => ?_⟩
  · rw [lookup_outcomes] at ho
    exact hderived id o ho
  · obtain ⟨o, ho, hstanding⟩ := Session.settled_of_ended (hended n.id (List.mem_map_of_mem hn))
    refine ⟨o, ?_, hstanding⟩
    rw [lookup_outcomes]
    exact Session.outcome?_eq_some_iff.2 ho
  · simp only [recorded_outcomes, exists_eq_left]
    exact get?_released c.requested hkeyed a

/-- The call of the small run returns the mail address, and the directory gives what it has by id. -/
theorem returned_of_sample : ∃ c ∈ Sample.ended.calls, ∃ res, c.ending = some (.returned (.ok res)) ∧
    Returned Sample.resolver c Sample.ended.shared res := by
  have hmem : Sample.ended.calls[0] ∈ Sample.ended.calls := List.getElem_mem _
  have hreachable : Reachable Sample.resolver (fun _ _ => True) Sample.ended :=
    Sample.reachable_ended fun _ _ => trivial
  have hgave : (Sample.ended.shared.log.all fun
      | .gave _ _ m => decide m.IsKeyed
      | _ => true) = true := by decide
  refine ⟨_, hmem, _, rfl, hreachable.returned hmem rfl fun k m _ hk => ?_⟩
  exact of_decide_eq_true (List.all_eq_true.1 hgave _ hk)

/-- Where a value comes from that is given out under an id. -/
inductive Produced (r : Resolver W) (c : Call W) (sh : Shared W) (key : String) (v : Value) : Prop
  /-- It was computed for an exported definition of that name. -/
  | computed {d : DefinitionNode} {m : AttributeMap} (hroot : .definition d ∈ r.graph.roots c.requested)
    (hexported : d.exported = true) (hid : d.id = key) (hgave : .gave c.number d.id m ∈ sh.log)
    (hvalue : v ∈ m.valuesOf key)
  /-- It was fetched for a connector that lets it out, by itself or by one that stands in for it. -/
  | fetched {root source : ConnectorNode W} {m : AttributeMap} {a : Attribute}
    (hroot : .connector root ∈ r.graph.roots c.requested) (hexports : root.exports key = true)
    (hsource : r.graph.node? source.id = some (.connector source))
    (hstands : StandsIn r.graph c.number sh.log root.id source.id) (hgave : .gave c.number source.id m ∈ sh.log)
    (hgives : (source.connector (Pursuit.fetchInput source ⟨c, sh⟩)).Gives (.ok m)) (ha : a ∈ m.values)
    (hid : a.id = key) (hvalue : v ∈ a.values)
    (hadmits : (∀ k k', r.graph.node? k.id = some (.connector k) → r.graph.node? k'.id = some (.connector k') →
      k.failover = some k'.id → k.exports key = true → k'.exports key = true) → source.exports key = true)

/--
**Who lets values out.** Every value that is returned was computed for an exported definition of that name, or was
fetched in this call for a connector that lets out the attribute it is in. The connector that fetched it lets it out
itself if it is the same, or if every failover lets out what the connector before it does.
-/
theorem Reachable.produced {r : Resolver W} {passes : Call W → Nat → Prop} {s : Sessions W} {c : Call W}
    {res : Resolution} (hs : Reachable r passes s) (hc : c ∈ s.calls)
    (hreturned : c.ending = some (.returned (.ok res))) {key : String} {a : Attribute} {v : Value}
    (ha : res.attributes.get? key = some a) (hv : v ∈ a.values) : Produced r c s.shared key v := by
  have htraced := hs.traced c hc
  have hsound := Graph.sound_of_error? r.graph.valid
  obtain ⟨-, rfl⟩ := (hs.returns c hc).ok res hreturned
  have hroot : ∀ n ∈ r.graph.roots c.requested, r.graph.node? n.id = some n := fun n hn =>
    Graph.findNode_of_mem hsound.nodup (Graph.mem_of_mem_roots _ _ hn)
  -- what a node was settled with was given by one that stands in for it
  have hsource : ∀ id key b, (key, b) ∈ (Session.attributesOf ⟨c, s.shared⟩ id).entries → ∃ source,
      StandsIn r.graph c.number s.shared.log id source ∧
        .gave c.number source (Session.attributesOf ⟨c, s.shared⟩ id) ∈ s.shared.log := by
    intro id key b hb
    rw [Session.attributesOf] at hb ⊢
    cases ho : Session.outcome? ⟨c, s.shared⟩ id with
    | none =>
      rw [ho] at hb
      cases hb
    | some o =>
      rw [ho] at hb
      exact (htraced.derived (Session.outcome?_eq_some_iff.1 ho)).source hb
  obtain ⟨b, hb, hid, hvb⟩ := mem_released ha hv
  rcases List.mem_append.1 hb with hown | hfetched
  · obtain ⟨o, ho, hob⟩ := List.mem_filterMap.1 hown
    obtain ⟨n, hn, rfl⟩ := List.mem_map.1 ho
    cases n with
    | connector k => cases hob
    | definition d =>
      simp only [ownAttribute, Node.id] at hob
      by_cases hexported : d.exported = true
      · rw [if_pos hexported] at hob
        obtain ⟨source, hstands, hgave⟩ := hsource d.id _ b (Keyed.get?_eq_some_iff.1 hob)
        obtain rfl := hstands.definition (hroot _ hn)
        obtain ⟨n', hn', hcame⟩ := htraced.came d.id (.ok _) hgave
        have hsame : n' = .definition d := by
          have hnode := hcame.node
          rw [hn'] at hnode
          exact Option.some.inj (hnode.symm.trans (hroot _ hn))
        have hkeyed : (Session.attributesOf ⟨c, s.shared⟩ d.id).IsKeyed := by
          rcases hcame.gave with ⟨d', values, -, hm⟩ | ⟨k, hk, -⟩
          · rw [hm]
            exact isKeyed_ofAttributes _
          · rw [hsame] at hk
            cases hk
        have hname : d.id = key := (AttributeMap.isKeyed_iff.1 hkeyed d.id b hob).symm.trans hid
        refine .computed hn hexported hname hgave ?_
        rw [← hname, AttributeMap.valuesOf_of_get? hob]
        exact hvb
      · rw [if_neg hexported] at hob
        cases hob
  · obtain ⟨o, ho, hob⟩ := List.mem_flatMap.1 hfetched
    obtain ⟨n, hn, rfl⟩ := List.mem_map.1 ho
    cases n with
    | definition d => cases hob
    | connector k =>
      simp only [fetchedAttributes, Node.id] at hob
      obtain ⟨hmem, hexports⟩ := List.mem_filter.1 hob
      rw [hid] at hexports
      obtain ⟨⟨key', _⟩, hentry, rfl⟩ := List.mem_map.1 hmem
      obtain ⟨source, hstands, hgave⟩ := hsource k.id key' _ hentry
      obtain ⟨n', rfl, hcame⟩ := htraced.came source (.ok _) hgave
      obtain ⟨cover, hcover⟩ := hstands.connector (hroot _ hn)
      obtain rfl := Option.some.inj (hcame.node.symm.trans hcover)
      rcases hcame.gave with ⟨d, _, hd, -⟩ | ⟨k', hk', hgives⟩
      · cases hd
      · cases hk'
        exact .fetched hn hexports hcover hstands hgave hgives hmem hid hvb fun hadmits =>
          hstands.exports hadmits (hroot _ hn) hcover hexports

namespace Covered

/-- A connector that keeps everything to itself stands in for one that lets everything out. -/
def nodes : List (Node Unit) :=
  [.connector { id := "front", failover := some "back", connector := fun _ => .done (.error (.backend "down")) },
    .connector { id := "back", exportedKeys := some [], connector := .constant Sample.mail }]

def resolver : Resolver Unit := { graph := ⟨nodes, by decide⟩ }

/-- The call has had its only turn. -/
def answered : Sessions Unit := Sample.begun resolver [Sample.call 0]

theorem reachable_answered : Reachable resolver (fun _ _ => True) answered :=
  Sample.reachable_begun_call resolver _ 0

/-- The value is fetched by the one that stands in. -/
theorem produced_of_answered : ∃ c ∈ answered.calls, ∃ res a, c.ending = some (.returned (.ok res)) ∧
    res.attributes.get? "mail" = some a ∧ a.values = [.string "alice@example.org"] ∧
      Produced resolver c answered.shared "mail" (.string "alice@example.org") := by
  have hmem : answered.calls[0] ∈ answered.calls := List.getElem_mem _
  exact ⟨_, hmem, _, _, rfl, rfl, by decide, reachable_answered.produced hmem rfl rfl (by decide)⟩

/-- And nobody else has it, so that it gets out although its only source lets nothing out. -/
theorem lets_out_what_is_kept : ∃ c ∈ answered.calls, ∃ res, c.ending = some (.returned (.ok res)) ∧
    res.attributes.valuesOf "mail" = [.string "alice@example.org"] ∧
      ∀ k m, resolver.graph.node? k.id = some (.connector k) → .gave c.number k.id m ∈ answered.shared.log →
        k.exports "mail" = false := by
  refine ⟨answered.calls[0], List.getElem_mem _, _, rfl, by decide, fun k m hk hgave => ?_⟩
  have hback : (answered.shared.log.all fun
      | .gave _ id _ => decide (id = "back")
      | _ => true) = true := by decide
  have hid : k.id = "back" := of_decide_eq_true (List.all_eq_true.1 hback _ hgave)
  rw [hid] at hk
  cases hk
  rfl

end Covered

end Resolver

end AttributeRelease
