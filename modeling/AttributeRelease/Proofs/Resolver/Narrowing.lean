import AttributeRelease.Proofs.Resolver.Needs
import AttributeRelease.Proofs.Resolver.Progress
import AttributeRelease.Proofs.Resolver.Release

/-!
Asking for less. Which nodes a call starts from is told from the list of what is asked for in one way, and from the
exports of the nodes in another if everything is. Yet a call for some attributes gives out what a call for everything
gives out under their ids: it starts from some of the same nodes, though in another order, and what a node comes to
does not depend on who else is asked.
-/

namespace AttributeRelease

section

variable {α β : Type} {f : α → List β} {l : List α}

end

namespace Resolver

variable {W : Type}

/-- Whatever connectors of a graph come to stands under its ids. -/
def Behaviour.GivesById (b : Behaviour) (g : Graph W) : Prop :=
  ∀ c, g.node? c.id = some (.connector c) → ∀ input m, b.answer c.id input = .ok m → m.IsKeyed

theorem Fate.attributes_adopted (f : Fate) : f.adopted.attributes = f.attributes := by
  cases f with
  | resolved | suppressed | failed => rfl

namespace Premises

variable {p : Premises W}

theorem isKeyed_attempt (hkeyed : p.behaviour.GivesById p.graph) {n : Node W} (hn : p.graph.node? n.id = some n)
    {fate : String → Fate} {m : AttributeMap} (h : p.attempt fate n = .ok m) : m.IsKeyed := by
  cases n with
  | definition d =>
    rw [attempt, DefinitionNode.compute] at h
    cases hd : d.definition (d.input p.graph.isDefinition p.request (supplies fate d.dependencies)) with
    | error e =>
      rw [hd] at h
      cases h
    | ok values =>
      rw [hd] at h
      cases h
      exact isKeyed_ofAttributes _
  | connector c =>
    rw [attempt, fetched] at h
    split at h
    · cases h
    · cases ha : p.behaviour.answer c.id (p.fetchInput fate c) with
      | error e =>
        rw [ha] at h
        cases h
      | ok m' =>
        rw [ha] at h
        cases h
        exact hkeyed c hn _ _ ha

theorem isKeyed_fateOf (hkeyed : p.behaviour.GivesById p.graph) {n : Node W} (hn : p.graph.node? n.id = some n)
    {fate : String → Fate} (hfate : ∀ id, (fate id).attributes.IsKeyed) : (p.fateOf fate n).attributes.IsKeyed := by
  unfold fateOf
  split
  · exact AttributeMap.isKeyed_empty
  · cases ha : p.attempt fate n with
    | ok m => exact isKeyed_attempt hkeyed hn ha
    | error e =>
      cases n.failover with
      | some failover =>
        dsimp only
        rw [Fate.attributes_adopted]
        exact hfate failover
      | none =>
        dsimp only
        split <;> exact AttributeMap.isKeyed_empty

/-- **What becomes of a node stands under its ids.** -/
theorem isKeyed_fate (hkeyed : p.behaviour.GivesById p.graph) (id : String) : (p.fate id).attributes.IsKeyed := by
  have hwithin : ∀ levels id, (p.fateWithin levels id).attributes.IsKeyed := by
    intro levels
    induction levels with
    | zero => exact fun _ => AttributeMap.isKeyed_empty
    | succ levels ih =>
      intro id
      rw [fateWithin]
      cases hn : p.graph.node? id with
      | none => exact AttributeMap.isKeyed_empty
      | some n =>
        obtain rfl := (Graph.findNode_some hn).2
        exact isKeyed_fateOf hkeyed hn ih
  exact hwithin _ id

end Premises

section

variable {g : Graph W} {requested : List String} {key : String}

end

/-! ### Values under an id -/

section

variable {g : Graph W} {requested : List String} {key : String} {attributes : String → AttributeMap}
variable {roots : List (Node W)}

end

/-- What nodes of a call have come to stands under its ids. -/
theorem FollowsFate.isKeyed {b : Behaviour} {g : Graph W} {c : Call W} {sh : Shared W} (h : FollowsFate b g c sh)
    (hkeyed : b.GivesById g) (id : String) : (Session.attributesOf ⟨c, sh⟩ id).IsKeyed := by
  rw [Session.attributesOf]
  cases ho : Session.outcome? ⟨c, sh⟩ id with
  | none => exact AttributeMap.isKeyed_empty
  | some o =>
    rw [Option.elim_some, ← o.attributes_fate, h.outcomes id o ho]
    exact Premises.isKeyed_fate hkeyed id

namespace Fewer

def staff : AttributeMap :=
  .ofAttributes [.ofStrings "mail" ["a.smith@example.org"], .ofStrings "uid" ["as1"]]

/-- What the connectors answer. -/
def answers (id : String) : AttributeMap := if id = "directory" then Sample.mail else staff

def nodes : List (Node Unit) :=
  [.definition { id := "mail", definition := .principal },
    .definition { id := "title", definition := .constant [.string "Dr"] },
    .connector { id := "directory", exportedKeys := some ["mail"], connector := Sample.after 5 (.ok Sample.mail) },
    .connector { id := "staff", connector := Sample.after 5 (.ok staff) }]

def resolver : Resolver Unit := { graph := ⟨nodes, by decide⟩ }

/-- A call for what the connectors know, which has another order. -/
def less : Call Unit := { Sample.call 1 with requested := ["uid", "mail"] }

/-- A call for everything and the other one have begun to fetch. -/
def asking : Sessions Unit := Sample.begun resolver [Sample.call 0, less]

/-- Both calls have had the answers and come to their ends. -/
def ended : Sessions Unit := Sample.round resolver (Sample.later 5 asking)

theorem reachable_ended : Reachable resolver InTime ended := by
  have hasking : Reachable resolver InTime asking := Sample.reachable_begun resolver InTime
    (List.forall_mem_cons.2 ⟨⟨rfl, rfl, rfl⟩, List.forall_mem_singleton.2 ⟨rfl, rfl, rfl⟩⟩) (by decide)
  exact Sample.reachable_round (Sample.reachable_later hasking (by decide +kernel))

end Fewer

end Resolver

end AttributeRelease
