import AttributeRelease.Graph.Basic
import Mathlib.Data.List.Chain
import Mathlib.Data.List.Nodup
import Mathlib.Data.List.Perm.Subperm
import Mathlib.Logic.Relation

/-!
What the search for cycles finds. A search that comes to an end lists the nodes so that whatever a
node leads to stands behind it, which ranks the nodes; one that breaks off does so on a way that leads
back to where it began.
-/

namespace AttributeRelease

namespace Graph

variable {W : Type}

/-- There is an edge from a node to each one that it depends on or has as its failover. -/
def Edge (nodes : List (Node W)) (a b : String) : Prop := ∃ n ∈ nodes, n.id = a ∧ b ∈ n.successors

/-- No way along edges leads back to where it began. -/
def Acyclic (nodes : List (Node W)) : Prop := ∀ a, ¬ Relation.TransGen (Edge nodes) a a

/-- The nodes stand in an order in which every edge leads further back. -/
def Ordered (nodes : List (Node W)) : List String → Prop
  | [] => True
  | a :: rest => a ∉ rest ∧ (∀ b, Edge nodes a b → b ∈ rest) ∧ Ordered nodes rest

theorem findNode_eq_none_iff {nodes : List (Node W)} {id : String} :
    findNode nodes id = none ↔ id ∉ nodes.map Node.id := by
  simp only [findNode, List.find?_eq_none, decide_eq_true_eq, List.mem_map, not_exists, not_and]

theorem findNode_some {nodes : List (Node W)} {id : String} {n : Node W} (h : findNode nodes id = some n) :
    n ∈ nodes ∧ n.id = id := by
  refine ⟨List.mem_of_find?_eq_some h, ?_⟩
  simpa only [decide_eq_true_eq] using List.find?_some h

/-- Where ids are distinct every node is found by its id. -/
theorem findNode_of_mem {nodes : List (Node W)} (hnodup : (nodes.map Node.id).Nodup) {n : Node W}
    (hn : n ∈ nodes) : findNode nodes n.id = some n := by
  cases hfind : findNode nodes n.id with
  | none => exact absurd (List.mem_map_of_mem hn) (findNode_eq_none_iff.1 hfind)
  | some m =>
    obtain ⟨hm, hid⟩ := findNode_some hfind
    rw [List.inj_on_of_nodup_map hnodup hm hn hid]

theorem edge_iff_of_findNode {nodes : List (Node W)} (hnodup : (nodes.map Node.id).Nodup) {id : String}
    {n : Node W} (h : findNode nodes id = some n) (b : String) : Edge nodes id b ↔ b ∈ n.successors := by
  obtain ⟨hn, rfl⟩ := findNode_some h
  constructor
  · rintro ⟨m, hm, hid, hb⟩
    rwa [List.inj_on_of_nodup_map hnodup hm hn hid] at hb
  · intro hb
    exact ⟨n, hn, rfl, hb⟩

/-! ### Ranks -/

theorem Ordered.nodup {nodes : List (Node W)} {order : List String} (h : Ordered nodes order) :
    order.Nodup := by
  induction order with
  | nil => exact .nil
  | cons a rest ih => exact List.nodup_cons.2 ⟨h.1, ih h.2.2⟩

theorem Ordered.edge_mem {nodes : List (Node W)} {order : List String} (h : Ordered nodes order)
    {a b : String} (ha : a ∈ order) (hab : Edge nodes a b) : b ∈ order := by
  induction order with
  | nil => cases ha
  | cons c rest ih =>
    rcases List.mem_cons.1 ha with rfl | ha
    · exact List.mem_cons_of_mem _ (h.2.1 b hab)
    · exact List.mem_cons_of_mem _ (ih h.2.2 ha)

theorem Ordered.idxOf_lt {nodes : List (Node W)} {order : List String} (h : Ordered nodes order)
    {a b : String} (ha : a ∈ order) (hab : Edge nodes a b) : order.idxOf a < order.idxOf b := by
  induction order with
  | nil => cases ha
  | cons c rest ih =>
    have hb : b ∈ rest := by
      rcases List.mem_cons.1 ha with rfl | ha
      · exact h.2.1 b hab
      · exact h.2.2.edge_mem ha hab
    have hcb : c ≠ b := fun e => h.1 (e ▸ hb)
    rw [List.idxOf_cons_ne rest hcb]
    by_cases hca : c = a
    · subst hca
      rw [List.idxOf_cons_self]
      omega
    · rw [List.idxOf_cons_ne rest hca]
      have hrest := ih h.2.2 ((List.mem_cons.1 ha).resolve_left (Ne.symm hca))
      omega

/-- How many nodes of an order stand behind a node, that node counted. -/
def rankIn (order : List String) (a : String) : Nat := order.length - order.idxOf a

theorem Ordered.rankIn_lt {nodes : List (Node W)} {order : List String} (h : Ordered nodes order)
    {a b : String} (ha : a ∈ order) (hab : Edge nodes a b) : rankIn order b < rankIn order a := by
  have hb := List.idxOf_lt_length_of_mem (h.edge_mem ha hab)
  have hlt := h.idxOf_lt ha hab
  unfold rankIn
  omega

theorem acyclic_of_rank {nodes : List (Node W)} (rank : String → Nat)
    (hrank : ∀ a b, Edge nodes a b → rank b < rank a) : Acyclic nodes := by
  have hdescends : ∀ a b, Relation.TransGen (Edge nodes) a b → rank b < rank a := by
    intro a b h
    induction h with
    | single h => exact hrank _ _ h
    | tail _ h ih => exact (hrank _ _ h).trans ih
  exact fun a h => Nat.lt_irrefl _ (hdescends a a h)

/-- What a search has found that began with some finished nodes at the end of a path. -/
structure Explored (nodes : List (Node W)) (path before after : List String) : Prop where
  ordered : Ordered nodes after
  known : after ⊆ nodes.map Node.id
  subset : before ⊆ after
  apart : ∀ a ∈ path, a ∉ after

theorem Explored.trans {nodes : List (Node W)} {path first second third : List String}
    (h : Explored nodes path first second) (h' : Explored nodes path second third) :
    Explored nodes path first third :=
  ⟨h'.ordered, h'.known, fun _ ha => h'.subset (h.subset ha), h'.apart⟩

/-- A search of several nodes finishes each of them if the search of one does. -/
theorem explored_foldlM {nodes : List (Node W)} {path : List String}
    {search : List String → String → Except GraphError (List String)}
    (hsearch : ∀ before after a, a ∈ nodes.map Node.id → Explored nodes path before before →
      search before a = .ok after → Explored nodes path before after ∧ a ∈ after)
    (ids : List String) (hids : ids ⊆ nodes.map Node.id) {before after : List String}
    (hbefore : Explored nodes path before before) (h : ids.foldlM search before = .ok after) :
    Explored nodes path before after ∧ ids ⊆ after := by
  induction ids generalizing before with
  | nil =>
    obtain rfl : before = after := by simpa [pure, Except.pure] using h
    exact ⟨hbefore, List.nil_subset _⟩
  | cons a rest ih =>
    rw [List.foldlM_cons] at h
    cases ha : search before a with
    | error e =>
      rw [ha] at h
      cases h
    | ok middle =>
      rw [ha] at h
      obtain ⟨hfirst, hmem⟩ := hsearch before middle a (hids List.mem_cons_self) hbefore ha
      have hmiddle : Explored nodes path middle middle :=
        ⟨hfirst.ordered, hfirst.known, List.Subset.refl _, hfirst.apart⟩
      obtain ⟨hsecond, hrest⟩ := ih (fun _ hb => hids (List.mem_cons_of_mem _ hb)) hmiddle h
      exact ⟨hfirst.trans hsecond, List.cons_subset.2 ⟨hsecond.subset hmem, hrest⟩⟩

theorem explored_visit {nodes : List (Node W)} (hnodup : (nodes.map Node.id).Nodup)
    (hknown : ∀ a b, Edge nodes a b → b ∈ nodes.map Node.id) (levels : Nat) (path before after : List String)
    (id : String) (hlevels : nodes.length < levels + path.length) (hpath : path.Nodup)
    (hpaths : path ⊆ nodes.map Node.id) (hid : id ∈ nodes.map Node.id)
    (hbefore : Explored nodes path before before) (h : visit nodes levels path before id = .ok after) :
    Explored nodes path before after ∧ id ∈ after := by
  induction levels generalizing path before after id with
  | zero =>
    have hlength := (hpath.subperm hpaths).length_le
    rw [List.length_map] at hlength
    omega
  | succ levels ih =>
    rw [visit] at h
    by_cases hfinished : id ∈ before
    · rw [if_pos hfinished] at h
      obtain rfl := Except.ok.inj h
      exact ⟨hbefore, hfinished⟩
    rw [if_neg hfinished] at h
    by_cases hon : id ∈ path
    · rw [if_pos hon] at h
      cases h
    rw [if_neg hon] at h
    cases hfind : findNode nodes id with
    | none => exact absurd hid (findNode_eq_none_iff.1 hfind)
    | some n =>
      rw [hfind] at h
      cases hfold : n.successors.foldlM (fun fs next => visit nodes levels (id :: path) fs next) before with
      | error e =>
        simp only [hfold, bind, Except.bind] at h
        cases h
      | ok inner =>
        simp only [hfold, bind, Except.bind, pure, Except.pure] at h
        obtain rfl := Except.ok.inj h
        have hedges := edge_iff_of_findNode hnodup hfind
        have hstart : Explored nodes (id :: path) before before := by
          refine ⟨hbefore.ordered, hbefore.known, List.Subset.refl _, fun a ha => ?_⟩
          rcases List.mem_cons.1 ha with rfl | ha
          · exact hfinished
          · exact hbefore.apart a ha
        have hinner := explored_foldlM (fun before after a ha hb hv =>
            ih (id :: path) before after a (by simpa only [List.length_cons, Nat.add_assoc, Nat.add_comm 1] using hlevels)
              (List.nodup_cons.2 ⟨hon, hpath⟩) (List.cons_subset.2 ⟨hid, hpaths⟩) ha hb hv)
          n.successors (fun b hb => hknown id b ((hedges b).2 hb)) hstart hfold
        obtain ⟨hexplored, hsuccessors⟩ := hinner
        refine ⟨⟨⟨hexplored.apart id List.mem_cons_self, fun b hb => hsuccessors ((hedges b).1 hb),
          hexplored.ordered⟩, List.cons_subset.2 ⟨hid, hexplored.known⟩,
          fun a ha => List.mem_cons_of_mem _ (hexplored.subset ha), fun a ha hmem => ?_⟩, List.mem_cons_self⟩
        rcases List.mem_cons.1 hmem with rfl | hmem
        · exact hon ha
        · exact hexplored.apart a (List.mem_cons_of_mem _ ha) hmem

/-- A search that comes to an end has put all nodes in order. -/
theorem checkAcyclic_ok {nodes : List (Node W)} (hnodup : (nodes.map Node.id).Nodup)
    (hknown : ∀ a b, Edge nodes a b → b ∈ nodes.map Node.id) {order : List String}
    (h : checkAcyclic nodes = .ok order) :
    Ordered nodes order ∧ order ⊆ nodes.map Node.id ∧ nodes.map Node.id ⊆ order := by
  have hstart : Explored nodes [] [] [] := ⟨trivial, List.nil_subset _, List.nil_subset _, nofun⟩
  obtain ⟨hexplored, hall⟩ := explored_foldlM (fun before after a ha hb hv =>
      explored_visit hnodup hknown (nodes.length + 1) [] before after a (by simp) .nil (List.nil_subset _) ha hb hv)
    (nodes.map Node.id) (List.Subset.refl _) hstart h
  exact ⟨hexplored.ordered, hexplored.known, hall⟩

/-- A way along edges that ends where it began and meets no other node twice. -/
structure IsCycle (nodes : List (Node W)) (path : List String) : Prop where
  walk : path.IsChain (Edge nodes)
  closed : ∃ a inner, path = a :: inner ++ [a] ∧ (a :: inner).Nodup

theorem isCycle_cycleAt {nodes : List (Node W)} {path : List String} {id : String} (hpath : path.Nodup)
    (hwalk : (path.reverse ++ [id]).IsChain (Edge nodes)) (hid : id ∈ path) :
    IsCycle nodes (cycleAt id path) := by
  obtain ⟨front, back, rfl, hfront⟩ := List.eq_append_cons_of_mem hid
  have htake : (front ++ id :: back).takeWhile (· ≠ id) = front := by
    rw [List.takeWhile_append_of_pos (fun a ha => by simpa using fun e : a = id => hfront (e ▸ ha))]
    simp
  have hcycle : cycleAt id (front ++ id :: back) = id :: front.reverse ++ [id] := by
    rw [cycleAt, htake]
  rw [hcycle]
  refine ⟨hwalk.suffix ⟨back.reverse, by simp⟩, id, front.reverse, rfl, ?_⟩
  have hnodup : (front ++ [id]).Nodup := hpath.sublist (List.Sublist.append_left (by simp) front)
  simpa using List.nodup_reverse.2 hnodup

theorem IsCycle.not_acyclic {nodes : List (Node W)} {path : List String} (h : IsCycle nodes path) :
    ¬ Acyclic nodes := by
  obtain ⟨a, inner, rfl, -⟩ := h.closed
  intro hacyclic
  refine hacyclic a ?_
  have hwalk := h.walk
  cases inner with
  | nil => exact .single (by simpa using hwalk)
  | cons b inner =>
    rw [List.cons_append, List.cons_append, List.isChain_cons_cons] at hwalk
    refine Relation.TransGen.head' hwalk.1 ?_
    exact List.relationReflTransGen_of_exists_isChain_cons _ hwalk.2 (by simp)

/-- A search of several nodes breaks off only where the search of one does. -/
theorem foldlM_error {search : List String → String → Except GraphError (List String)} {P : GraphError → Prop}
    (ids : List String) (hsearch : ∀ before a e, a ∈ ids → search before a = .error e → P e)
    {before : List String} {e : GraphError} (h : ids.foldlM search before = .error e) : P e := by
  induction ids generalizing before with
  | nil => cases h
  | cons a rest ih =>
    rw [List.foldlM_cons] at h
    cases ha : search before a with
    | error e' =>
      rw [ha] at h
      obtain rfl := Except.error.inj h
      exact hsearch before a _ List.mem_cons_self ha
    | ok middle =>
      rw [ha] at h
      exact ih (fun before b e hb => hsearch before b e (List.mem_cons_of_mem _ hb)) h

theorem visit_error {nodes : List (Node W)} (levels : Nat) (path before : List String) (id : String)
    {e : GraphError} (hpath : path.Nodup) (hwalk : (path.reverse ++ [id]).IsChain (Edge nodes))
    (h : visit nodes levels path before id = .error e) : ∃ cycle, e = .cycle cycle ∧ IsCycle nodes cycle := by
  induction levels generalizing path before id e with
  | zero => cases h
  | succ levels ih =>
    rw [visit] at h
    by_cases hfinished : id ∈ before
    · rw [if_pos hfinished] at h
      cases h
    rw [if_neg hfinished] at h
    by_cases hon : id ∈ path
    · rw [if_pos hon] at h
      obtain rfl := Except.error.inj h
      exact ⟨_, rfl, isCycle_cycleAt hpath hwalk hon⟩
    rw [if_neg hon] at h
    cases hfind : findNode nodes id with
    | none =>
      rw [hfind] at h
      cases h
    | some n =>
      rw [hfind] at h
      obtain ⟨hn, hnid⟩ := findNode_some hfind
      cases hfold : n.successors.foldlM (fun fs next => visit nodes levels (id :: path) fs next) before with
      | ok inner =>
        simp only [hfold, bind, Except.bind] at h
        cases h
      | error e' =>
        simp only [hfold, bind, Except.bind] at h
        obtain rfl := Except.error.inj h
        refine foldlM_error (P := fun e => ∃ cycle, e = .cycle cycle ∧ IsCycle nodes cycle) n.successors
          (fun before next e hnext hv => ?_) hfold
        refine ih (id :: path) before next (List.nodup_cons.2 ⟨hon, hpath⟩) ?_ hv
        rw [List.reverse_cons, List.append_assoc, List.singleton_append, List.isChain_append_cons_cons]
        exact ⟨hwalk, ⟨n, hn, hnid, hnext⟩, .singleton _⟩

/-- A search that breaks off has found a cycle. -/
theorem checkAcyclic_error {nodes : List (Node W)} {e : GraphError} (h : checkAcyclic nodes = .error e) :
    ∃ cycle, e = .cycle cycle ∧ IsCycle nodes cycle :=
  foldlM_error (nodes.map Node.id)
    (fun before a _ _ hv => visit_error (nodes.length + 1) [] before a .nil (.singleton a) hv) h

end Graph

end AttributeRelease
