import AttributeRelease.Proofs.Resolver.Dismissal
import AttributeRelease.Proofs.Activity.Durations

/-!
What becomes of the nodes of a graph if connectors behave as functions of what they work from. Each node is
worked out from what it depends on and from its failover, one after the other and without any clock but the
time that a fetch itself takes. There is nothing here of calls, turns, gates or cells.
-/

namespace AttributeRelease

namespace Resolver

variable {W : Type}

/-- What becomes of a node. -/
inductive Fate where
  | resolved (attributes : AttributeMap)
  /-- It failed, and those that need it go on without it. -/
  | suppressed
  /-- It failed, and so does whatever needs it. -/
  | failed
  deriving DecidableEq

namespace Fate

/-- The attributes that the node gives to those that need it. -/
def attributes : Fate → AttributeMap
  | .resolved attributes => attributes
  | .suppressed | .failed => .empty

/-- What becomes of a node whose failover came to this. -/
def adopted : Fate → Fate
  | .resolved attributes => .resolved attributes
  | .suppressed => .resolved .empty
  | .failed => .failed

/-- Whatever did not fail is adopted with the attributes it gives. -/
theorem adopted_of_ne {f : Fate} (h : f ≠ .failed) : f.adopted = .resolved f.attributes := by
  cases f with
  | resolved | suppressed => rfl
  | failed => exact absurd rfl h

end Fate

/-- How connectors behave: how long a fetch takes, and what it comes to. -/
structure Behaviour where
  time : String → ConnectorInput → Nat
  answer : String → ConnectorInput → Except ConnectorError AttributeMap

/-- Every connector of a graph behaves so, whatever the world is. -/
def Behaviour.Governs (b : Behaviour) (g : Graph W) : Prop :=
  ∀ c, g.node? c.id = some (.connector c) →
    ∀ input, (c.connector input).Lasts (b.answer c.id input) (b.time c.id input)

/-- What the nodes of a graph are worked out from. -/
structure Premises (W : Type) where
  graph : Graph W
  behaviour : Behaviour
  request : Request
  /-- How long a fetch may take, in milliseconds. -/
  timeout : Nat

namespace Premises

/-- What the dependencies of a node give. -/
def supplies (fate : String → Fate) (dependencies : List Dependency) : List Supply :=
  dependencies.map fun d => ⟨d, (fate d.node).attributes⟩

/-- What a connector works from. -/
def fetchInput (p : Premises W) (fate : String → Fate) (c : ConnectorNode W) : ConnectorInput :=
  ⟨p.request, Supply.gather (supplies fate c.dependencies)⟩

/-- What a fetch comes to that may not take longer than the timeout. -/
def fetched (p : Premises W) (id : String) (input : ConnectorInput) : Except ConnectorError AttributeMap :=
  if Activity.waitOf p.timeout < p.behaviour.time id input then .error (.timeout p.timeout)
  else p.behaviour.answer id input

/-- What a node comes to by itself. -/
def attempt (p : Premises W) (fate : String → Fate) : Node W → Except ResolutionError AttributeMap
  | .definition d =>
    (d.compute (d.input p.graph.isDefinition p.request (supplies fate d.dependencies))).mapError (.definition d.id)
  | .connector c => (p.fetched c.id (p.fetchInput fate c)).mapError (.connector c.id)

/-- What becomes of a node, from what becomes of the nodes it needs. -/
def fateOf (p : Premises W) (fate : String → Fate) (n : Node W) : Fate :=
  if ∃ d ∈ n.dependencies, fate d.node = .failed then .failed
  else
    match p.attempt fate n with
    | .ok m => .resolved m
    | .error _ =>
      match n.failover with
      | some failover => (fate failover).adopted
      | none => if n.propagatesErrors then .failed else .suppressed

/-- What becomes of the node with an id, for nodes with no more than so many levels below them. -/
def fateWithin (p : Premises W) : (levels : Nat) → String → Fate
  | 0, _ => .failed
  | levels + 1, id => (p.graph.node? id).elim .failed (p.fateOf (p.fateWithin levels))

/-- What becomes of the node with an id. -/
def fate (p : Premises W) : String → Fate := p.fateWithin (levels p.graph)

variable {p : Premises W} {fate fate' : String → Fate}

theorem supplies_congr {dependencies : List Dependency}
    (h : ∀ d ∈ dependencies, fate d.node = fate' d.node) :
    supplies fate dependencies = supplies fate' dependencies :=
  List.map_congr_left fun d hd => by rw [h d hd]

theorem attempt_congr {n : Node W} (h : ∀ d ∈ n.dependencies, fate d.node = fate' d.node) :
    p.attempt fate n = p.attempt fate' n := by
  have hsupplies := supplies_congr h
  cases n with
  | definition d =>
    rw [Node.dependencies] at hsupplies
    rw [attempt, attempt, hsupplies]
  | connector c =>
    rw [Node.dependencies] at hsupplies
    rw [attempt, attempt, fetchInput, fetchInput, hsupplies]

theorem fateOf_of_failed {n : Node W} {d : Dependency} (hd : d ∈ n.dependencies) (hfailed : fate d.node = .failed) :
    p.fateOf fate n = .failed := by
  rw [fateOf, if_pos ⟨d, hd, hfailed⟩]

section

variable {n : Node W} (hdependencies : ∀ d ∈ n.dependencies, fate d.node ≠ .failed)

include hdependencies

theorem fateOf_of_ok {m : AttributeMap} (h : p.attempt fate n = .ok m) : p.fateOf fate n = .resolved m := by
  rw [fateOf, if_neg fun ⟨d, hd, hfailed⟩ => hdependencies d hd hfailed, h]

theorem fateOf_of_failover {e : ResolutionError} (h : p.attempt fate n = .error e) {failover : String}
    (hfailover : n.failover = some failover) : p.fateOf fate n = (fate failover).adopted := by
  rw [fateOf, if_neg fun ⟨d, hd, hfailed⟩ => hdependencies d hd hfailed, h, hfailover]

theorem fateOf_of_error {e : ResolutionError} (h : p.attempt fate n = .error e) (hfailover : n.failover = none) :
    p.fateOf fate n = if n.propagatesErrors then .failed else .suppressed := by
  rw [fateOf, if_neg fun ⟨d, hd, hfailed⟩ => hdependencies d hd hfailed, h, hfailover]

end

/-- What becomes of a node depends on nothing but the nodes that it needs. -/
theorem fateOf_congr {n : Node W} (h : ∀ id ∈ n.successors, fate id = fate' id) :
    p.fateOf fate n = p.fateOf fate' n := by
  have hdependencies : ∀ d ∈ n.dependencies, fate d.node = fate' d.node := fun d hd =>
    h d.node (List.mem_append_left _ (List.mem_map_of_mem hd))
  have hfailed : (∃ d ∈ n.dependencies, fate d.node = .failed) ↔ ∃ d ∈ n.dependencies, fate' d.node = .failed :=
    exists_congr fun d => and_congr_right fun hd => by rw [hdependencies d hd]
  have hfailover : ∀ failover, n.failover = some failover → fate failover = fate' failover := fun failover hf =>
    h failover (List.mem_append_right _ (by rw [hf]; exact List.mem_singleton_self failover))
  unfold fateOf
  rw [if_congr hfailed rfl rfl, attempt_congr hdependencies]
  cases hf : n.failover with
  | none => rfl
  | some failover =>
    have hsame := hfailover failover hf
    dsimp only
    rw [hsame]

/-- Levels beyond those below a node change nothing for it. -/
theorem fateWithin_eq {rank : String → Nat} (hrank : Ranks p.graph rank) (levels levels' : Nat) (id : String)
    (h : rank id < levels) (h' : rank id < levels') : p.fateWithin levels id = p.fateWithin levels' id := by
  induction levels generalizing levels' id with
  | zero => exact absurd h (Nat.not_lt_zero _)
  | succ levels ih =>
    cases levels' with
    | zero => exact absurd h' (Nat.not_lt_zero _)
    | succ levels' =>
      rw [fateWithin, fateWithin]
      cases hn : p.graph.node? id with
      | none => rfl
      | some n =>
        obtain ⟨hmem, rfl⟩ := Graph.findNode_some hn
        rw [Option.elim_some, Option.elim_some]
        refine fateOf_congr fun next hnext => ?_
        have hlt : rank next < rank n.id := hrank n.id next ⟨n, hmem, rfl, hnext⟩
        exact ih levels' next (by omega) (by omega)

/-- **What becomes of a node is worked out from what becomes of the nodes it needs.** -/
theorem fate_eq (p : Premises W) {n : Node W} (hn : p.graph.node? n.id = some n) :
    p.fate n.id = p.fateOf p.fate n := by
  obtain ⟨rank, hrank, hlevels⟩ := exists_ranks p.graph
  obtain ⟨hmem, -⟩ := Graph.findNode_some hn
  have hunfold : p.fate n.id = p.fateOf (p.fateWithin p.graph.nodes.length) n := by
    rw [Premises.fate, levels, fateWithin, hn, Option.elim_some]
  rw [hunfold]
  refine fateOf_congr fun next hnext => ?_
  have hlt : rank next < rank n.id := hrank n.id next ⟨n, hmem, rfl, hnext⟩
  have hle : rank n.id < levels p.graph := hlevels n.id
  exact fateWithin_eq hrank _ _ next (by rw [levels] at hle; omega) (hlevels next)

end Premises

end Resolver

end AttributeRelease
