import AttributeRelease.Proofs.Pairwise.Exchanges
import Mathlib.Data.List.Basic

/-!
What it takes to get an identifier. A store makes attempts until one succeeds, fails in a way that will not pass, or
is the last one allowed, and waits between them; what becomes of the last result depends on its fallback. An attempt
looks for an identifier, and then has at most three candidates to insert, each followed by a look if it was taken.
All of this holds whatever the backend answers.
-/

namespace AttributeRelease.Pairwise

open Dialogue (Path)

/-- What a dialogue is told. Each answer may depend on all that was exchanged before. -/
structure Answers where
  find : List Exchange → Pair → Except StoreError (Option String)
  insert : List Exchange → Pair → String → Except StoreError Unit
  deactivate : List Exchange → Pair → Except StoreError Bool
  draw : List Exchange → String
  toss : List Exchange → Float

namespace Dialogue

variable {α : Type}

/-- A dialogue held with these answers: all that was exchanged, beginning with what came before, and its end. -/
def hold (b : Answers) (before : List Exchange) : Dialogue α → List Exchange × α
  | done a => (before, a)
  | find pair next =>
    let answer := b.find before pair
    (next answer).hold b (before ++ [.found pair answer])
  | insert pair id next =>
    let answer := b.insert before pair id
    (next answer).hold b (before ++ [.inserted pair id answer])
  | deactivate pair next =>
    let answer := b.deactivate before pair
    (next answer).hold b (before ++ [.deactivated pair answer])
  | draw next =>
    let id := b.draw before
    (next id).hold b (before ++ [.drew id])
  | toss next =>
    let chance := b.toss before
    (next chance).hold b (before ++ [.tossed chance])
  | sleep ms next => next.hold b (before ++ [.slept ms])

end Dialogue

/-- What was exchanged in an attempt, and what it came to. -/
structure Attempt (α : Type) where
  course : List Exchange
  result : Except StoreError α

namespace RetryPolicy

variable {α : Type}

end RetryPolicy

namespace Exchange

/-- Something was asked of the backend. -/
def isCall : Exchange → Bool
  | found .. | inserted .. | deactivated .. => true
  | drew _ | tossed _ | slept _ => false

def isInsertion : Exchange → Bool
  | inserted .. => true
  | _ => false

/-- Someone looked for the identifier of a pair, tried to insert one for it, or drew one. -/
inductive Serves (pair : Pair) : Exchange → Prop
  | found (answer : Except StoreError (Option String)) : Serves pair (.found pair answer)
  | inserted (id : String) (answer : Except StoreError Unit) : Serves pair (.inserted pair id answer)
  | drew (id : String) : Serves pair (.drew id)

/-- An exchange by which an attempt came no further: nothing was found, or what was inserted is taken. -/
inductive IsVain (pair : Pair) : Exchange → Prop
  | found : IsVain pair (.found pair (.ok none))
  | inserted (id : String) (e : StoreError) (hkind : e.kind = .duplicate) : IsVain pair (.inserted pair id (.error e))
  | drew (id : String) : IsVain pair (.drew id)

/-- The backend failed in this way. -/
inductive Reports (pair : Pair) (e : StoreError) : Exchange → Prop
  | found : Reports pair e (.found pair (.error e))
  | inserted (id : String) : Reports pair e (.inserted pair id (.error e))

end Exchange

/-- By these exchanges a source comes to a candidate. -/
inductive InitialId.Proposes (pair : Pair) : InitialId → List Exchange → String → Prop
  | computed (g : Generator) : Proposes pair (.computed g) [] (g.generate pair)
  | drawn (id : String) : Proposes pair .random [.drew id] id

namespace InitialId.Proposes

variable {pair : Pair} {source : InitialId} {ys : List Exchange} {id : String}

theorem eq_drew (h : source.Proposes pair ys id) : ∀ x ∈ ys, source = .random ∧ x = .drew id := by
  cases h <;> simp

theorem countP_isCall (h : source.Proposes pair ys id) : ys.countP Exchange.isCall = 0 := by
  cases h <;> rfl

end InitialId.Proposes

/-- The course of trying a number of candidates, of which all but the first are drawn, and what it comes to. -/
inductive Allocation (pair : Pair) : InitialId → Nat → List Exchange → Except StoreError String → Prop
  | spent {source : InitialId} : Allocation pair source 0 [] (.error Store.exhausted)
  | stored {source : InitialId} {n : Nat} {ys : List Exchange} {id : String} (h : source.Proposes pair ys id) :
    Allocation pair source (n + 1) (ys ++ [.inserted pair id (.ok ())]) (.ok id)
  | refused {source : InitialId} {n : Nat} {ys : List Exchange} {id : String} {e : StoreError}
    (h : source.Proposes pair ys id) (hkind : e.kind ≠ .duplicate) :
    Allocation pair source (n + 1) (ys ++ [.inserted pair id (.error e)]) (.error e)
  | adopted {source : InitialId} {n : Nat} {ys : List Exchange} {id held : String} {e : StoreError}
    (h : source.Proposes pair ys id) (hkind : e.kind = .duplicate) :
    Allocation pair source (n + 1) (ys ++ [.inserted pair id (.error e), .found pair (.ok (some held))]) (.ok held)
  | lost {source : InitialId} {n : Nat} {ys : List Exchange} {id : String} {e e' : StoreError}
    (h : source.Proposes pair ys id) (hkind : e.kind = .duplicate) :
    Allocation pair source (n + 1) (ys ++ [.inserted pair id (.error e), .found pair (.error e')]) (.error e')
  | taken {source : InitialId} {n : Nat} {ys xs : List Exchange} {id : String} {e : StoreError}
    {r : Except StoreError String} (h : source.Proposes pair ys id) (hkind : e.kind = .duplicate)
    (hrest : Allocation pair .random n xs r) :
    Allocation pair source (n + 1) (ys ++ .inserted pair id (.error e) :: .found pair (.ok none) :: xs) r

/-- Someone who looked for an identifier, found none and was to draw the first candidate, or whose candidate was taken
by somebody but not for the pair, may draw one. -/
inductive MayDraw (s : Store) (pair : Pair) : List Exchange → Prop
  | first (hinitial : s.initial = .random) : MayDraw s pair [.found pair (.ok none)]
  | rejected (before : List Exchange) (id : String) (e : StoreError) (hkind : e.kind = .duplicate) :
    MayDraw s pair (before ++ [.inserted pair id (.error e), .found pair (.ok none)])

namespace Allocation

variable {pair : Pair} {source : InitialId} {n : Nat} {xs : List Exchange} {r : Except StoreError String}

theorem serves (h : Allocation pair source n xs r) : ∀ x ∈ xs, x.Serves pair := by
  have proposal {source : InitialId} {ys : List Exchange} {id : String} (h : source.Proposes pair ys id) :
      ∀ x ∈ ys, x.Serves pair := fun x hx => (h.eq_drew x hx).2 ▸ .drew id
  induction h with
  | spent => simp
  | stored h | refused h =>
    exact List.forall_mem_append.2 ⟨proposal h, List.forall_mem_singleton.2 (.inserted _ _)⟩
  | adopted h | lost h =>
    exact List.forall_mem_append.2 ⟨proposal h, List.forall_mem_cons.2 ⟨.inserted _ _,
      List.forall_mem_singleton.2 (.found _)⟩⟩
  | taken h _ _ ih =>
    exact List.forall_mem_append.2 ⟨proposal h, List.forall_mem_cons.2 ⟨.inserted _ _,
      List.forall_mem_cons.2 ⟨.found _, ih⟩⟩⟩

/-- A candidate takes two calls at most. -/
theorem calls (h : Allocation pair source n xs r) : xs.countP Exchange.isCall ≤ 2 * n := by
  induction h with
  | spent => simp
  | stored h | refused h | adopted h | lost h | taken h =>
    simp only [List.countP_append, h.countP_isCall, List.countP_cons, List.countP_nil, Exchange.isCall, if_true]
    omega

/-- Nothing is exchanged after an identifier was found. -/
theorem pairwise (h : Allocation pair source n xs r) :
    xs.Pairwise fun x _ => ∀ id, x ≠ .found pair (.ok (some id)) := by
  have proposal {source : InitialId} {ys zs : List Exchange} {id : String} (h : source.Proposes pair ys id)
      (hrest : zs.Pairwise fun x _ => ∀ id, x ≠ .found pair (.ok (some id))) :
      (ys ++ zs).Pairwise fun x _ => ∀ id, x ≠ .found pair (.ok (some id)) := by
    cases h <;> simpa using hrest
  induction h with
  | spent => exact .nil
  | stored h | refused h | adopted h | lost h => exact proposal h (by simp)
  | taken h _ _ ih => exact proposal h (by simpa using ih)

theorem found (h : Allocation pair source n xs r) {id : String} (hfound : .found pair (.ok (some id)) ∈ xs) :
    r = .ok id := by
  have proposal {source : InitialId} {ys zs : List Exchange} {id' : String} (h : source.Proposes pair ys id')
      (hfound : .found pair (.ok (some id)) ∈ ys ++ zs) : .found pair (.ok (some id)) ∈ zs := by
    cases h <;> simpa using hfound
  induction h with
  | spent => cases hfound
  | stored h | refused h | adopted h | lost h =>
    have hmem := proposal h hfound
    simp_all
  | taken h _ _ ih =>
    have hmem := proposal h hfound
    exact ih (by simpa using hmem)

end Allocation

/-! ### Attempts at an identifier -/

/-- What holds of every attempt of a store at the identifier of a pair. -/
structure Attempt.Proper (s : Store) (pair : Pair) (a : Attempt String) : Prop where
  /-- It is one run of the dialogue from its beginning to its end. -/
  runs : Path (s.getOnce pair) a.course (.done a.result)
  begins : ∃ answer rest, a.course = .found pair answer :: rest
  calls : a.course.countP Exchange.isCall ≤ 7
  /-- All questions are about the pair, and there are no waits. -/
  serves : ∀ x ∈ a.course, x.Serves pair
  /-- An identifier that is found is the end of it. -/
  stops : a.course.Pairwise fun x _ => ∀ id, x ≠ .found pair (.ok (some id))
  adopts : ∀ id, .found pair (.ok (some id)) ∈ a.course → a.result = .ok id
  draws : ∀ ys id zs, a.course = ys ++ .drew id :: zs → MayDraw s pair ys
  /-- Three candidates that are taken, without an identifier being found for the pair, are the end of it. -/
  exhausts : (∀ x ∈ a.course, x.IsVain pair) → a.course.countP Exchange.isInsertion = Store.maxCandidates →
    a.result = .error Store.exhausted
  /-- An attempt comes to this end only in that way, unless the backend itself reports it. -/
  exhausted : a.result = .error Store.exhausted →
    ((∀ x ∈ a.course, x.IsVain pair) ∧ a.course.countP Exchange.isInsertion = Store.maxCandidates) ∨
      ∃ x, a.course.getLast? = some x ∧ x.Reports pair Store.exhausted

namespace Attempt

variable {s : Store} {pair : Pair} {r : Except StoreError String}

end Attempt

end AttributeRelease.Pairwise
