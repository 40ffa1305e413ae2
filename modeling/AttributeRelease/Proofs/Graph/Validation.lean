import AttributeRelease.Proofs.Graph.CycleSearch

/-!
Which lists of nodes are graphs, and which fault of any other list is told. Ids come first, then what
the nodes name, node by node, and cycles only where there is no other fault.
-/

namespace AttributeRelease

namespace Graph

variable {W : Type}

/-- Every dependency of a node is a node of the list, and its failover a connector of the list. -/
structure Resolves (nodes : List (Node W)) (n : Node W) : Prop where
  dependencies : ∀ d ∈ n.dependencies, d.node ∈ nodes.map Node.id
  failover : ∀ f, n.failover = some f → ∃ m ∈ nodes, m.id = f ∧ m.isConnector = true

/-- The first name of a node that leads nowhere: its dependencies in order, then its failover. -/
inductive Misnames (nodes : List (Node W)) (n : Node W) : GraphError → Prop
  | dependency (before after : List Dependency) (d : Dependency) :
    n.dependencies = before ++ d :: after → (∀ b ∈ before, b.node ∈ nodes.map Node.id) →
      d.node ∉ nodes.map Node.id → Misnames nodes n (.unknownDependency n.id d.node)
  | unknownFailover (f : String) :
    (∀ d ∈ n.dependencies, d.node ∈ nodes.map Node.id) → n.failover = some f →
      f ∉ nodes.map Node.id → Misnames nodes n (.unknownFailover n.id f)
  | failoverNotConnector (f : String) (m : Node W) :
    (∀ d ∈ n.dependencies, d.node ∈ nodes.map Node.id) → n.failover = some f →
      m ∈ nodes → m.id = f → m.isConnector = false → Misnames nodes n (.failoverNotConnector n.id f)

/-- The first fault of a list of nodes, cycles apart. -/
inductive FirstFault (nodes : List (Node W)) : GraphError → Prop
  | duplicateId (before after : List (Node W)) (n : Node W) :
    nodes = before ++ n :: after → (before.map Node.id).Nodup → n.id ∈ before.map Node.id →
      FirstFault nodes (.duplicateId n.id)
  | misnames (before after : List (Node W)) (n : Node W) (e : GraphError) :
    (nodes.map Node.id).Nodup → nodes = before ++ n :: after → (∀ m ∈ before, Resolves nodes m) →
      Misnames nodes n e → FirstFault nodes e

theorem firstRepeated_eq_some_iff {seen ids : List String} {id : String} :
    Filter.firstRepeated seen ids = some id ↔ ∃ before after, ids = before ++ id :: after ∧ before.Nodup ∧
      (∀ a ∈ before, a ∉ seen) ∧ (id ∈ seen ∨ id ∈ before) := by
  induction ids generalizing seen with
  | nil => simp [Filter.firstRepeated]
  | cons a rest ih =>
    rw [Filter.firstRepeated]
    by_cases ha : a ∈ seen
    · rw [if_pos ha]
      constructor
      · intro h
        obtain rfl := Option.some.inj h
        exact ⟨[], rest, rfl, .nil, nofun, .inl ha⟩
      · rintro ⟨before, after, heq, -, hseen, -⟩
        cases before with
        | nil => rw [(List.cons.inj heq).1]
        | cons b before =>
          obtain rfl := (List.cons.inj heq).1
          exact absurd ha (hseen a List.mem_cons_self)
    · rw [if_neg ha, ih]
      constructor
      · rintro ⟨before, after, rfl, hnodup, hseen, hid⟩
        have hfresh : a ∉ before := fun hmem => hseen a hmem List.mem_cons_self
        refine ⟨a :: before, after, rfl, List.nodup_cons.2 ⟨hfresh, hnodup⟩, fun b hb => ?_, ?_⟩
        · rcases List.mem_cons.1 hb with rfl | hb
          · exact ha
          · exact fun hs => hseen b hb (List.mem_cons_of_mem _ hs)
        · rcases hid with hid | hid
          · rcases List.mem_cons.1 hid with rfl | hid
            · exact .inr List.mem_cons_self
            · exact .inl hid
          · exact .inr (List.mem_cons_of_mem _ hid)
      · rintro ⟨before, after, heq, hnodup, hseen, hid⟩
        cases before with
        | nil =>
          obtain rfl := (List.cons.inj heq).1
          exact absurd (hid.resolve_right List.not_mem_nil) ha
        | cons b before =>
          obtain ⟨rfl, rfl⟩ := List.cons.inj heq
          obtain ⟨hfresh, hnodup⟩ := List.nodup_cons.1 hnodup
          refine ⟨before, after, rfl, hnodup, fun b hb hs => ?_, ?_⟩
          · rcases List.mem_cons.1 hs with rfl | hs
            · exact hfresh hb
            · exact hseen b (List.mem_cons_of_mem _ hb) hs
          · rcases hid with hid | hid
            · exact .inl (List.mem_cons_of_mem _ hid)
            · rcases List.mem_cons.1 hid with rfl | hid
              · exact .inl List.mem_cons_self
              · exact .inr hid

theorem firstRepeated_ids_eq_some_iff {nodes : List (Node W)} {id : String} :
    Filter.firstRepeated [] (nodes.map Node.id) = some id ↔ FirstFault nodes (.duplicateId id) := by
  rw [firstRepeated_eq_some_iff]
  constructor
  · rintro ⟨before, after, heq, hnodup, -, hid⟩
    obtain ⟨front, back, rfl, rfl, hback⟩ := List.map_eq_append_iff.1 heq
    obtain ⟨n, back, rfl, rfl, rfl⟩ := List.map_eq_cons_iff.1 hback
    exact .duplicateId front back n rfl hnodup (hid.resolve_left List.not_mem_nil)
  · intro h
    cases h with
    | duplicateId before after n heq hnodup hid =>
      subst heq
      exact ⟨before.map Node.id, after.map Node.id, by simp, hnodup, nofun, .inr hid⟩
    | misnames before after n _ _ _ _ hmisnames => cases hmisnames

theorem firstRepeated_ids_eq_none_iff {nodes : List (Node W)} :
    Filter.firstRepeated [] (nodes.map Node.id) = none ↔ (nodes.map Node.id).Nodup := by
  constructor
  · exact fun h => (Filter.nodup_of_firstRepeated h).1
  · intro hnodup
    cases h : Filter.firstRepeated [] (nodes.map Node.id) with
    | none => rfl
    | some id =>
      obtain ⟨before, after, heq, -, -, hid⟩ := firstRepeated_eq_some_iff.1 h
      rw [heq, List.nodup_append] at hnodup
      exact absurd rfl (hnodup.2.2 id (hid.resolve_left List.not_mem_nil) id List.mem_cons_self)

/-! ### Names that lead nowhere -/

theorem findNode_isNone_iff {nodes : List (Node W)} {id : String} :
    (findNode nodes id).isNone = true ↔ id ∉ nodes.map Node.id := by
  rw [Option.isNone_iff_eq_none, findNode_eq_none_iff]

theorem referenceError?_of_unknownDependency {nodes : List (Node W)} {n : Node W}
    {before after : List Dependency} {d : Dependency} (heq : n.dependencies = before ++ d :: after)
    (hbefore : ∀ b ∈ before, b.node ∈ nodes.map Node.id) (hd : d.node ∉ nodes.map Node.id) :
    referenceError? nodes n = some (.unknownDependency n.id d.node) := by
  have hfind : n.dependencies.find? (fun d => (findNode nodes d.node).isNone) = some d := by
    refine List.find?_eq_some_iff_append.2 ⟨findNode_isNone_iff.2 hd, before, after, heq, fun b hb => ?_⟩
    rw [Bool.not_eq_true', Bool.eq_false_iff]
    exact fun h => findNode_isNone_iff.1 h (hbefore b hb)
  rw [referenceError?, hfind]

theorem referenceError?_of_known {nodes : List (Node W)} {n : Node W}
    (h : ∀ d ∈ n.dependencies, d.node ∈ nodes.map Node.id) :
    referenceError? nodes n = match n.failover with
      | none => none
      | some failover =>
        match findNode nodes failover with
        | none => some (.unknownFailover n.id failover)
        | some target => if target.isConnector then none else some (.failoverNotConnector n.id failover) := by
  unfold referenceError?
  cases hfind : n.dependencies.find? (fun d => (findNode nodes d.node).isNone) with
  | none => rfl
  | some d =>
    have hd := List.find?_some hfind
    exact absurd (h d (List.mem_of_find?_eq_some hfind)) (findNode_isNone_iff.1 hd)

/-- Either all dependencies of a node are known, or there is a first one that is not. -/
theorem known_or_firstUnknown (nodes : List (Node W)) (dependencies : List Dependency) :
    (∀ d ∈ dependencies, d.node ∈ nodes.map Node.id) ∨
      ∃ before d after, dependencies = before ++ d :: after ∧
        (∀ b ∈ before, b.node ∈ nodes.map Node.id) ∧ d.node ∉ nodes.map Node.id := by
  induction dependencies with
  | nil => exact .inl nofun
  | cons d rest ih =>
    by_cases hd : d.node ∈ nodes.map Node.id
    · rcases ih with hknown | ⟨before, d', after, rfl, hbefore, hd'⟩
      · exact .inl (List.forall_mem_cons.2 ⟨hd, hknown⟩)
      · exact .inr ⟨d :: before, d', after, rfl, List.forall_mem_cons.2 ⟨hd, hbefore⟩, hd'⟩
    · exact .inr ⟨[], d, rest, rfl, nofun, hd⟩

theorem referenceError?_of_misnames {nodes : List (Node W)} (hnodup : (nodes.map Node.id).Nodup)
    {n : Node W} {e : GraphError} (h : Misnames nodes n e) : referenceError? nodes n = some e := by
  cases h with
  | dependency before after d heq hbefore hd => exact referenceError?_of_unknownDependency heq hbefore hd
  | unknownFailover f hknown hf hunknown =>
    rw [referenceError?_of_known hknown, hf]
    simp only [findNode_eq_none_iff.2 hunknown]
  | failoverNotConnector f m hknown hf hm hid hconnector =>
    subst hid
    rw [referenceError?_of_known hknown, hf]
    simp [findNode_of_mem hnodup hm, hconnector]

theorem referenceError?_of_resolves {nodes : List (Node W)} (hnodup : (nodes.map Node.id).Nodup)
    {n : Node W} (h : Resolves nodes n) : referenceError? nodes n = none := by
  rw [referenceError?_of_known h.dependencies]
  cases hf : n.failover with
  | none => rfl
  | some f =>
    obtain ⟨m, hm, rfl, hconnector⟩ := h.failover f hf
    simp [findNode_of_mem hnodup hm, hconnector]

/-- What a node names is there, or there is a first name that leads nowhere. -/
theorem resolves_or_misnames (nodes : List (Node W)) (n : Node W) :
    Resolves nodes n ∨ ∃ e, Misnames nodes n e := by
  rcases known_or_firstUnknown nodes n.dependencies with hknown | ⟨before, d, after, heq, hbefore, hd⟩
  swap
  · exact .inr ⟨_, .dependency before after d heq hbefore hd⟩
  cases hf : n.failover with
  | none =>
    refine .inl ⟨hknown, fun f hf' => ?_⟩
    rw [hf] at hf'
    cases hf'
  | some f =>
    by_cases hunknown : f ∈ nodes.map Node.id
    · obtain ⟨m, hm, hid⟩ := List.mem_map.1 hunknown
      cases hconnector : m.isConnector with
      | false => exact .inr ⟨_, .failoverNotConnector f m hknown hf hm hid hconnector⟩
      | true =>
        refine .inl ⟨hknown, fun f' hf' => ?_⟩
        obtain rfl := Option.some.inj (hf.symm.trans hf')
        exact ⟨m, hm, hid, hconnector⟩
    · exact .inr ⟨_, .unknownFailover f hknown hf hunknown⟩

theorem referenceError?_eq_none_iff {nodes : List (Node W)} (hnodup : (nodes.map Node.id).Nodup)
    {n : Node W} : referenceError? nodes n = none ↔ Resolves nodes n := by
  refine ⟨fun h => ?_, referenceError?_of_resolves hnodup⟩
  rcases resolves_or_misnames nodes n with hresolves | ⟨e, hmisnames⟩
  · exact hresolves
  · rw [referenceError?_of_misnames hnodup hmisnames] at h
    cases h

theorem referenceError?_eq_some_iff {nodes : List (Node W)} (hnodup : (nodes.map Node.id).Nodup)
    {n : Node W} {e : GraphError} : referenceError? nodes n = some e ↔ Misnames nodes n e := by
  refine ⟨fun h => ?_, referenceError?_of_misnames hnodup⟩
  rcases resolves_or_misnames nodes n with hresolves | ⟨e', hmisnames⟩
  · rw [referenceError?_of_resolves hnodup hresolves] at h
    cases h
  · obtain rfl := Option.some.inj ((referenceError?_of_misnames hnodup hmisnames).symm.trans h)
    exact hmisnames

theorem Misnames.ne_cycle {nodes : List (Node W)} {n : Node W} {e : GraphError} (h : Misnames nodes n e)
    (path : List String) : e ≠ .cycle path := by
  cases h <;> exact nofun

theorem findSome?_referenceError_eq_none_iff {nodes : List (Node W)} (hnodup : (nodes.map Node.id).Nodup) :
    nodes.findSome? (referenceError? nodes) = none ↔ ∀ n ∈ nodes, Resolves nodes n := by
  simp only [List.findSome?_eq_none_iff, referenceError?_eq_none_iff hnodup]

theorem findSome?_referenceError_eq_some_iff {nodes : List (Node W)} (hnodup : (nodes.map Node.id).Nodup)
    {e : GraphError} : nodes.findSome? (referenceError? nodes) = some e ↔
      ∃ before n after, nodes = before ++ n :: after ∧ Misnames nodes n e ∧ ∀ m ∈ before, Resolves nodes m := by
  simp only [List.findSome?_eq_some_iff, referenceError?_eq_some_iff hnodup, referenceError?_eq_none_iff hnodup]

/-- What a graph is made of. -/
structure Sound (nodes : List (Node W)) : Prop where
  nodup : (nodes.map Node.id).Nodup
  resolves : ∀ n ∈ nodes, Resolves nodes n

theorem Sound.edge_mem {nodes : List (Node W)} (h : Sound nodes) {a b : String} (hab : Edge nodes a b) :
    b ∈ nodes.map Node.id := by
  obtain ⟨n, hn, rfl, hb⟩ := hab
  rcases List.mem_append.1 hb with hb | hb
  · obtain ⟨d, hd, rfl⟩ := List.mem_map.1 hb
    exact (h.resolves n hn).dependencies d hd
  · obtain ⟨m, hm, rfl, -⟩ := (h.resolves n hn).failover b (Option.mem_toList.1 hb)
    exact List.mem_map_of_mem hm

theorem sound_or_firstFault (nodes : List (Node W)) : Sound nodes ∨ ∃ e, FirstFault nodes e := by
  cases hrepeated : Filter.firstRepeated [] (nodes.map Node.id) with
  | some id => exact .inr ⟨_, firstRepeated_ids_eq_some_iff.1 hrepeated⟩
  | none =>
    have hnodup := firstRepeated_ids_eq_none_iff.1 hrepeated
    cases hreference : nodes.findSome? (referenceError? nodes) with
    | none => exact .inl ⟨hnodup, (findSome?_referenceError_eq_none_iff hnodup).1 hreference⟩
    | some e =>
      obtain ⟨before, n, after, heq, hmisnames, hbefore⟩ :=
        (findSome?_referenceError_eq_some_iff hnodup).1 hreference
      exact .inr ⟨e, .misnames before after n e hnodup heq hbefore hmisnames⟩

theorem error?_of_firstFault {nodes : List (Node W)} {e : GraphError} (h : FirstFault nodes e) :
    error? nodes = some e := by
  cases h with
  | duplicateId before after n heq hnodup hid =>
    simp only [error?, firstRepeated_ids_eq_some_iff.2 (.duplicateId before after n heq hnodup hid)]
  | misnames before after n e hnodup heq hbefore hmisnames =>
    simp only [error?, firstRepeated_ids_eq_none_iff.2 hnodup,
      (findSome?_referenceError_eq_some_iff hnodup).2 ⟨before, n, after, heq, hmisnames, hbefore⟩]

/-- Without any other fault the nodes have an order or lie on a cycle. -/
theorem error?_of_sound {nodes : List (Node W)} (h : Sound nodes) :
    (error? nodes = none ∧ ∃ order, Ordered nodes order ∧ order ⊆ nodes.map Node.id ∧ nodes.map Node.id ⊆ order) ∨
      ∃ path, error? nodes = some (.cycle path) ∧ IsCycle nodes path := by
  have hids := firstRepeated_ids_eq_none_iff.2 h.nodup
  have hresolves := (findSome?_referenceError_eq_none_iff h.nodup).2 h.resolves
  cases hcheck : checkAcyclic nodes with
  | ok order =>
    refine .inl ⟨?_, order, checkAcyclic_ok h.nodup (fun _ _ hab => h.edge_mem hab) hcheck⟩
    simp only [error?, hids, hresolves, hcheck]
  | error e =>
    obtain ⟨path, rfl, hcycle⟩ := checkAcyclic_error hcheck
    refine .inr ⟨path, ?_, hcycle⟩
    simp only [error?, hids, hresolves, hcheck]

theorem FirstFault.not_sound {nodes : List (Node W)} {e : GraphError} (h : FirstFault nodes e) :
    ¬ Sound nodes := by
  intro hsound
  cases h with
  | duplicateId before after n heq hnodup hid =>
    have hids := hsound.nodup
    rw [heq, List.map_append, List.nodup_append] at hids
    exact hids.2.2 n.id hid n.id List.mem_cons_self rfl
  | misnames before after n e hnodup heq hbefore hmisnames =>
    have hn := hsound.resolves n (heq ▸ List.mem_append_right _ List.mem_cons_self)
    rw [← referenceError?_eq_none_iff hnodup, referenceError?_of_misnames hnodup hmisnames] at hn
    cases hn

theorem FirstFault.ne_cycle {nodes : List (Node W)} {e : GraphError} (h : FirstFault nodes e)
    (path : List String) : e ≠ .cycle path := by
  cases h with
  | duplicateId => exact nofun
  | misnames before after n e _ _ _ hmisnames => exact hmisnames.ne_cycle path

theorem ofNodes_of_error? {nodes : List (Node W)} {e : GraphError} (h : error? nodes = some e) :
    ofNodes nodes = .error e := by
  unfold ofNodes
  split
  · rename_i e' h'
    rw [Option.some.inj (h'.symm.trans h)]
  · rename_i h'
    cases h'.symm.trans h

theorem ofNodes_of_none {nodes : List (Node W)} (h : error? nodes = none) : ofNodes nodes = .ok ⟨nodes, h⟩ := by
  unfold ofNodes
  split
  · rename_i e h'
    cases h'.symm.trans h
  · rfl

theorem ofNodes_eq_error_iff {nodes : List (Node W)} {e : GraphError} :
    ofNodes nodes = .error e ↔ error? nodes = some e := by
  refine ⟨fun h => ?_, ofNodes_of_error?⟩
  cases herror : error? nodes with
  | none =>
    rw [ofNodes_of_none herror] at h
    cases h
  | some e' =>
    rw [ofNodes_of_error? herror] at h
    rw [Except.error.inj h]

theorem ofNodes_eq_ok_iff {nodes : List (Node W)} {g : Graph W} :
    ofNodes nodes = .ok g ↔ error? nodes = none ∧ g.nodes = nodes := by
  constructor
  · intro h
    cases herror : error? nodes with
    | none =>
      rw [ofNodes_of_none herror] at h
      obtain rfl := Except.ok.inj h
      exact ⟨rfl, rfl⟩
    | some e =>
      rw [ofNodes_of_error? herror] at h
      cases h
  · rintro ⟨herror, rfl⟩
    exact ofNodes_of_none herror

theorem sound_of_error? {nodes : List (Node W)} (h : error? nodes = none) : Sound nodes := by
  rcases sound_or_firstFault nodes with hsound | ⟨e, hfault⟩
  · exact hsound
  · rw [error?_of_firstFault hfault] at h
    cases h

/-- The nodes of a graph have ranks, no higher than there are nodes, that sink along every edge. -/
theorem exists_rank {nodes : List (Node W)} (h : error? nodes = none) :
    ∃ rank : String → Nat, (∀ a b, Edge nodes a b → rank b < rank a) ∧ ∀ a, rank a ≤ nodes.length := by
  rcases error?_of_sound (sound_of_error? h) with ⟨-, order, hordered, hknown, hall⟩ | ⟨path, hcycle, -⟩
  · refine ⟨rankIn order, fun a b hab => hordered.rankIn_lt ?_ hab, fun a => ?_⟩
    · obtain ⟨n, hn, rfl, -⟩ := hab
      exact hall (List.mem_map_of_mem hn)
    · have hlength := (hordered.nodup.subperm hknown).length_le
      rw [List.length_map] at hlength
      exact (Nat.sub_le _ _).trans hlength
  · rw [h] at hcycle
    cases hcycle

theorem acyclic_of_error? {nodes : List (Node W)} (h : error? nodes = none) : Acyclic nodes := by
  obtain ⟨rank, hrank, -⟩ := exists_rank h
  exact acyclic_of_rank rank hrank

/-- **Validation.** A list of nodes is a graph exactly if its ids are distinct, what its nodes name is
there, and no way along edges leads back. Otherwise the first fault is told, a cycle only where there is
no other. The nodes of a graph are found by their ids. -/
theorem ofNodes_verdict (nodes : List (Node W)) :
    ((∃ g, ofNodes nodes = .ok g) ↔
      (nodes.map Node.id).Nodup ∧
      (∀ n ∈ nodes, ∀ d ∈ n.dependencies, ∃ m ∈ nodes, m.id = d.node) ∧
      (∀ n ∈ nodes, ∀ f, n.failover = some f → ∃ m ∈ nodes, m.id = f ∧ m.isConnector = true) ∧
      ∀ a, ¬ Relation.TransGen (Edge nodes) a a) ∧
    (∀ e, (∀ path, e ≠ .cycle path) → (ofNodes nodes = .error e ↔ FirstFault nodes e)) ∧
    ((∃ path, ofNodes nodes = .error (.cycle path)) ↔
      (¬ ∃ e, FirstFault nodes e) ∧ ∃ a, Relation.TransGen (Edge nodes) a a) ∧
    ∀ g, ofNodes nodes = .ok g → ∀ n ∈ nodes,
      g.node? n.id = some n ∧ ∀ m ∈ nodes, m.id = n.id → m = n := by
  refine ⟨?_, fun e he => ?_, ?_, fun g hg n hn => ?_⟩
  · constructor
    · rintro ⟨g, hg⟩
      have herror := (ofNodes_eq_ok_iff.1 hg).1
      have hsound := sound_of_error? herror
      exact ⟨hsound.nodup, fun n hn d hd => List.mem_map.1 ((hsound.resolves n hn).dependencies d hd),
        fun n hn => (hsound.resolves n hn).failover, acyclic_of_error? herror⟩
    · rintro ⟨hnodup, hdependencies, hfailover, hacyclic⟩
      have hsound : Sound nodes :=
        ⟨hnodup, fun n hn => ⟨fun d hd => List.mem_map.2 (hdependencies n hn d hd), hfailover n hn⟩⟩
      rcases error?_of_sound hsound with ⟨hnone, -⟩ | ⟨path, -, hcycle⟩
      · exact ⟨_, ofNodes_of_none hnone⟩
      · exact absurd hacyclic hcycle.not_acyclic
  · rw [ofNodes_eq_error_iff]
    refine ⟨fun h => ?_, error?_of_firstFault⟩
    rcases sound_or_firstFault nodes with hsound | ⟨e', hfault⟩
    · rcases error?_of_sound hsound with ⟨hnone, -⟩ | ⟨path, hcycle, -⟩
      · rw [h] at hnone
        cases hnone
      · exact absurd (Option.some.inj (h.symm.trans hcycle)) (he path)
    · obtain rfl := Option.some.inj ((error?_of_firstFault hfault).symm.trans h)
      exact hfault
  · simp only [ofNodes_eq_error_iff]
    constructor
    · rintro ⟨path, h⟩
      rcases sound_or_firstFault nodes with hsound | ⟨e, hfault⟩
      · rcases error?_of_sound hsound with ⟨hnone, -⟩ | ⟨path', -, hcycle⟩
        · rw [h] at hnone
          cases hnone
        · refine ⟨fun ⟨e, hfault⟩ => hfault.not_sound hsound, ?_⟩
          simpa [Acyclic] using hcycle.not_acyclic
      · exact absurd (Option.some.inj ((error?_of_firstFault hfault).symm.trans h)) (hfault.ne_cycle path)
    · rintro ⟨hfault, a, ha⟩
      have hsound := (sound_or_firstFault nodes).resolve_right hfault
      rcases error?_of_sound hsound with ⟨hnone, -⟩ | ⟨path, hcycle, -⟩
      · exact absurd ha (acyclic_of_error? hnone a)
      · exact ⟨path, hcycle⟩
  · obtain ⟨herror, rfl⟩ := ofNodes_eq_ok_iff.1 hg
    have hsound := sound_of_error? herror
    exact ⟨findNode_of_mem hsound.nodup hn, fun m hm hid => List.inj_on_of_nodup_map hsound.nodup hm hn hid⟩

end Graph

end AttributeRelease
