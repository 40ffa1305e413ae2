import AttributeRelease.Resolver.Input
import AttributeRelease.Resolver.Session

/-!
How a node is evaluated. Its dependencies are asked for side by side. Then a definition is computed at
once, while a connector waits to be let in and fetches, no longer than the call allows. A failed
connector hands over to its failover. Any other failure is passed on to whatever needs the node, or
leaves the node without attributes, as the node itself says.
-/

namespace AttributeRelease.Resolver

variable {W : Type}

abbrev Ask (W : Type) := Waker → Asker → String → Session W → Standing × Session W

abbrev Dismiss (W : Type) := Asker → String → Session W → Session W

/-- Asks for the node at a place of a list. -/
def askAt (ask : Ask W) (owner : Option String) (ids : List String) (w : Waker) (place : Nat)
    (s : Session W) : Standing × Session W :=
  match ids[place]? with
  | some id => ask w ⟨owner, place⟩ id s
  | none => (.ended, s)

/-- Stops asking for the node at a place of a list. -/
def dismissAt (dismiss : Dismiss W) (owner : Option String) (ids : List String) (place : Nat)
    (s : Session W) : Session W :=
  match ids[place]? with
  | some id => dismiss ⟨owner, place⟩ id s
  | none => s

namespace Session

/-- Why the node at a place of a list failed. -/
def failureAt (s : Session W) (ids : List String) (place : Nat) : ResolutionError :=
  s.failure (ids[place]?.getD "")

end Session

/-- Takes back whatever the evaluation of a node holds or waits for. -/
def abandon (dismiss : Dismiss W) (n : Node W) (p : Phase W) (s : Session W) : Session W :=
  match p with
  | .joining group => group.disband (dismissAt dismiss (some n.id) (n.dependencies.map Dependency.node)) s
  | .queued => s.renouncePermit n.id
  | .fetching fetch limit =>
    (reschedule s (fetch.drop (s.party n.id))).endFetch n.id limit
  | .recovering _ =>
    match n.failover with
    | some failover => dismiss ⟨some n.id, n.dependencies.length⟩ failover s
    | none => s

/-- Stops asking for a node. If it is evaluated for this asker, the next one in the line begins anew. -/
def dismiss (g : Graph W) : (levels : Nat) → Dismiss W
  | 0, _, _, s => s
  | levels + 1, asker, id, s =>
    let c := s.cell id
    if c.gate.knows asker then s.renounceCell id asker
    else
      match c.stage, g.node? id with
      | .evaluated first phase, some n =>
        if first = asker then (abandon (dismiss g levels) n phase s).leaveCell id else s
      | _, _ => s

/-- As many levels as a graph can be deep. -/
def levels (g : Graph W) : Nat := g.nodes.length + 1

/-- The evaluation of a node: for whom, and who is to be given a turn when it can go on. -/
structure Pursuit (W : Type) where
  graph : Graph W
  ask : Ask W
  asker : Asker
  waker : Waker

namespace Pursuit

def supplies (s : Session W) (dependencies : List Dependency) : List Supply :=
  dependencies.map fun d => ⟨d, s.attributesOf d.node⟩

/-- Settles a node. -/
def conclude (id : String) (o : Outcome) (s : Session W) : Standing × Session W :=
  (o.standing, s.settle id o)

/-- Asks for the failover of a connector, after everything the connector depends on. -/
def recover (p : Pursuit W) (n : Node W) (failover : String) (s : Session W) : Standing × Session W :=
  match p.ask p.waker ⟨some n.id, n.dependencies.length⟩ failover s with
  | (.waits, s) => (.waits, s)
  | (.ended, s) => conclude n.id (.resolved (s.attributesOf failover)) s
  | (.failed, s) => conclude n.id (.failed (s.failure failover)) s

/-- Goes on with what a node came to by itself. -/
def attempted (p : Pursuit W) (n : Node W) (r : Except ResolutionError AttributeMap) (s : Session W) :
    Standing × Session W :=
  let s := s.record (.own s.call.number n.id r)
  match r with
  | .ok m => conclude n.id (.resolved m) s
  | .error e =>
    match n.failover with
    | some failover => p.recover n failover (s.setPhase n.id p.asker (.recovering e))
    | none => conclude n.id (if n.propagatesErrors then .failed e else .suppressed e) s

def computation (g : Graph W) (d : DefinitionNode) (s : Session W) : Except ResolutionError AttributeMap :=
  (d.compute (d.input g.isDefinition s.call.request (supplies s d.dependencies))).mapError (.definition d.id)

def computeNode (p : Pursuit W) (d : DefinitionNode) (s : Session W) : Standing × Session W :=
  p.attempted (.definition d) (computation p.graph d s) (s.record (.computed s.call.number d.id))

def fetchInput (c : ConnectorNode W) (s : Session W) : ConnectorInput :=
  ⟨s.call.request, Supply.gather (supplies s c.dependencies)⟩

/--
Goes on with a fetch, and says what it came to unless it goes on. One that ends just when its time is
over has ended.
-/
def fetchOn (asker : Asker) (w : Waker) (c : ConnectorNode W)
    (fetch : Strand W (Except ConnectorError AttributeMap)) (limit : Alarm) (s : Session W) :
    Option (Except ConnectorError AttributeMap) × Session W :=
  let before := s.shared.scheduler.steps
  let (progress, world, scheduler) := fetch.goOn (s.party c.id) w s.shared.world s.shared.scheduler
  let s := { s with shared.world := world }
  match progress with
  | .ended r => (some r, { s with shared.scheduler := scheduler }.endFetch c.id limit)
  | .waits fetch =>
    match scheduler.isOver limit w before with
    | (true, limit, scheduler) =>
      let scheduler := fetch.drop (s.party c.id) scheduler
      (some (.error (.timeout s.call.timeout)), { s with shared.scheduler := scheduler }.endFetch c.id limit)
    | (false, limit, scheduler) =>
      (none, { s with shared.scheduler := scheduler }.setPhase c.id asker (.fetching fetch limit))

def goOnFetching (p : Pursuit W) (c : ConnectorNode W)
    (fetch : Strand W (Except ConnectorError AttributeMap)) (limit : Alarm) (s : Session W) :
    Standing × Session W :=
  match fetchOn p.asker p.waker c fetch limit s with
  | (none, s) => (.waits, s)
  | (some r, s) => p.attempted (.connector c) (r.mapError (.connector c.id)) s

/-- Begins the fetch of a connector, or waits to be let in. -/
def beginFetch (p : Pursuit W) (c : ConnectorNode W) (s : Session W) : Standing × Session W :=
  match s.takePermit c.id p.waker with
  | (.waits, s) => (.waits, s.setPhase c.id p.asker .queued)
  | (.enters, s) =>
    let limit := s.shared.scheduler.alarm s.call.timeout
    p.goOnFetching c (.poised (c.connector (fetchInput c s))) limit (s.record (.began s.call.number c.id))
  | (.excused, s) => p.attempted (.connector c) (.error (.connector c.id (.backend "fetch limiter closed"))) s

/-- Does what a node is for, once its dependencies are settled. -/
def evaluate (p : Pursuit W) (n : Node W) (s : Session W) : Standing × Session W :=
  match n with
  | .definition d => p.computeNode d s
  | .connector c => p.beginFetch c s

/-- Asks for the dependencies of a node, and evaluates it as soon as they are all there. -/
def join (p : Pursuit W) (n : Node W) (group : Group) (s : Session W) : Standing × Session W :=
  let ids := n.dependencies.map Dependency.node
  match group.turn (askAt p.ask (some n.id) ids) p.waker s with
  | (.waits, s) => (.waits, s)
  | (.ended, s) => p.evaluate n (group.close s)
  | (.failed place, s) =>
    let e := s.failureAt ids place
    conclude n.id (.failed e) (group.disband (dismissAt (dismiss p.graph (levels p.graph)) (some n.id) ids) s)

def start (p : Pursuit W) (n : Node W) (s : Session W) : Standing × Session W :=
  let (group, s) := Group.start n.dependencies.length s
  p.join n group (s.setPhase n.id p.asker (.joining group))

/-- Carries the evaluation of a node on from where it is. -/
def carryOn (p : Pursuit W) (n : Node W) (phase : Phase W) (s : Session W) : Standing × Session W :=
  match phase, n with
  | .joining group, n => p.join n group s
  | .queued, .connector c => p.beginFetch c s
  | .fetching fetch limit, .connector c => p.goOnFetching c fetch limit s
  | .recovering _, .connector c =>
    match c.failover with
    | some failover => p.recover (.connector c) failover s
    | none => (.waits, s)
  | .queued, .definition _ | .fetching .., .definition _ | .recovering _, .definition _ => (.waits, s)

end Pursuit

/--
Asks for a node. What a node asks for lies deeper in the graph, so as many levels as there are nodes
suffice.
-/
def ask (g : Graph W) : (levels : Nat) → Ask W
  | 0, _, _, _, s => (.waits, s)
  | levels + 1, w, asker, id, s =>
    match g.node? id with
    | none => (.failed, s)
    | some n =>
      let p : Pursuit W := ⟨g, ask g levels, asker, w⟩
      let enter := fun (s : Session W) =>
        match s.enterCell id asker w with
        | (.waits, s) => (.waits, s)
        | (.enters, s) => p.start n s
        | (.excused, s) => (s.standing id, s)
      let c := s.cell id
      if c.gate.knows asker then enter s
      else
        match c.stage with
        | .idle => enter s
        | .evaluated first phase => if first = asker then p.carryOn n phase s else enter s
        | .settled o => (o.standing, s)

end AttributeRelease.Resolver
