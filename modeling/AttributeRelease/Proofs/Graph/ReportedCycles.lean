import AttributeRelease.Proofs.Graph.Validation

/-!
Cycles as they are told to whoever wrote the graph. What is told is a way along dependencies and failovers of
nodes of the list: it ends where it began, meets no other node twice, and leaves out how the search came to it.
-/

namespace AttributeRelease

namespace Graph

variable {W : Type}

theorem edge_iff {nodes : List (Node W)} {a b : String} :
    Edge nodes a b ↔ ∃ n ∈ nodes, n.id = a ∧ ((∃ d ∈ n.dependencies, d.node = b) ∨ n.failover = some b) := by
  simp only [Edge, Node.successors, List.mem_append, List.mem_map, Option.mem_toList]

theorem isCycle_of_error? {nodes : List (Node W)} {path : List String} (h : error? nodes = some (.cycle path)) :
    IsCycle nodes path := by
  rcases sound_or_firstFault nodes with hsound | ⟨e, hfault⟩
  · rcases error?_of_sound hsound with ⟨hnone, -⟩ | ⟨path', hcycle, his⟩
    · rw [h] at hnone
      cases hnone
    · rw [h] at hcycle
      cases hcycle
      exact his
  · exact absurd (Option.some.inj ((error?_of_firstFault hfault).symm.trans h)) (hfault.ne_cycle path)

namespace IsCycle

variable {nodes : List (Node W)} {path : List String}

theorem two_le_length (h : IsCycle nodes path) : 2 ≤ path.length := by
  obtain ⟨a, inner, rfl, -⟩ := h.closed
  simp

theorem head?_eq_getLast? (h : IsCycle nodes path) : path.head? = path.getLast? := by
  obtain ⟨a, inner, rfl, -⟩ := h.closed
  rw [List.getLast?_concat]
  rfl

theorem nodup_dropLast (h : IsCycle nodes path) : path.dropLast.Nodup := by
  obtain ⟨a, inner, rfl, hnodup⟩ := h.closed
  rwa [List.dropLast_concat]

theorem edge_getElem (h : IsCycle nodes path) {i : Nat} (hi : i + 1 < path.length) :
    Edge nodes path[i] path[i + 1] :=
  List.isChain_iff_getElem.1 h.walk i hi

/-- Every node on a cycle but the last has an edge, so it is a node of the list. -/
theorem mem_of_mem_dropLast (h : IsCycle nodes path) {id : String} (hid : id ∈ path.dropLast) :
    id ∈ nodes.map Node.id := by
  obtain ⟨i, hi, rfl⟩ := List.mem_iff_getElem.1 hid
  have hnext : i + 1 < path.length := by
    rw [List.length_dropLast] at hi
    omega
  obtain ⟨n, hn, hnid, -⟩ := h.edge_getElem hnext
  rw [List.getElem_dropLast, ← hnid]
  exact List.mem_map_of_mem hn

end IsCycle

/-- **Reported cycles.** A cycle that is told has at least two entries, the first of which is also the last. All others
are distinct nodes of the list, and each of them depends on the next entry or has it as its failover. -/
theorem reported_cycle_is_real (nodes : List (Node W)) (path : List String)
    (h : ofNodes nodes = .error (.cycle path)) :
    2 ≤ path.length ∧ path.head? = path.getLast? ∧ path.dropLast.Nodup ∧
      (∀ id ∈ path.dropLast, ∃ n ∈ nodes, n.id = id) ∧
      ∀ i (hi : i + 1 < path.length), ∃ n ∈ nodes, n.id = path[i] ∧
        ((∃ d ∈ n.dependencies, d.node = path[i + 1]) ∨ n.failover = some path[i + 1]) := by
  have hcycle := isCycle_of_error? (ofNodes_eq_error_iff.1 h)
  refine ⟨hcycle.two_le_length, hcycle.head?_eq_getLast?, hcycle.nodup_dropLast, fun id hid => ?_, fun i hi => ?_⟩
  · exact List.mem_map.1 (hcycle.mem_of_mem_dropLast hid)
  · exact edge_iff.1 (hcycle.edge_getElem hi)

/-! A definition that leads to two connectors, of which one is the failover of the other and depends on it. -/

namespace Entangled

def nodes : List (Node Unit) :=
  [.definition { id := "mail", dependencies := [⟨"primary", none⟩], definition := fun _ => .ok [] },
    .connector { id := "primary", failover := some "backup", connector := fun _ => .done (.ok .empty) },
    .connector { id := "backup", dependencies := [⟨"primary", none⟩], connector := fun _ => .done (.ok .empty) }]

theorem reported_cycle_is_real_of_entangled :
    ofNodes nodes = .error (.cycle ["primary", "backup", "primary"]) ∧
      ∃ n ∈ nodes, n.id = "primary" ∧ ((∃ d ∈ n.dependencies, d.node = "backup") ∨ n.failover = some "backup") := by
  have h : ofNodes nodes = .error (.cycle ["primary", "backup", "primary"]) := ofNodes_of_error? (by decide)
  exact ⟨h, (reported_cycle_is_real nodes _ h).2.2.2.2 0 (by decide)⟩

end Entangled

end Graph

end AttributeRelease
