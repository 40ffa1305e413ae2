import AttributeRelease.Proofs.Pairwise.Ledger
import Mathlib.Data.Set.Basic

/-!
What goes on at a backend that the callers of stores share. Callers start at any time and ask their questions
one at a time, mixed in any order, and whoever is given up just asks no more. Every identifier that a store
without a fallback gives out was the active one of its pair at some moment of the call.
-/

namespace AttributeRelease.Pairwise

open Dialogue (Path)

/-- Somebody who asked a store for an identifier or for a retirement, with what is still to be done for it. -/
inductive Caller where
  | getting (pair : Pair) (d : Dialogue (Except StoreError String))
  | retiring (pair : Pair) (d : Dialogue (Except StoreError Bool))

namespace Caller

variable {s : Store} {c c' : Caller} {x : Exchange} {xs : List Exchange} {pair : Pair}

/-- A call that starts. -/
inductive Starts (s : Store) : Caller → Prop
  | get (pair : Pair) : Starts s (.getting pair (s.get pair))
  | deactivate (pair : Pair) : Starts s (.retiring pair (s.deactivate pair))

/-- A caller goes on by one exchange. -/
inductive Moves : Caller → Exchange → Caller → Prop
  | getting {pair : Pair} {d d' : Dialogue (Except StoreError String)} {x : Exchange} (h : d.Step x d') :
    Moves (.getting pair d) x (.getting pair d')
  | retiring {pair : Pair} {d d' : Dialogue (Except StoreError Bool)} {x : Exchange} (h : d.Step x d') :
    Moves (.retiring pair d) x (.retiring pair d')

/-- A caller of a store has had some exchanges so far. -/
inductive Came (s : Store) (xs : List Exchange) : Caller → Prop
  | getting {pair : Pair} {d : Dialogue (Except StoreError String)} (h : Path (s.get pair) xs d) :
    Came s xs (.getting pair d)
  | retiring {pair : Pair} {d : Dialogue (Except StoreError Bool)} (h : Path (s.deactivate pair) xs d) :
    Came s xs (.retiring pair d)

theorem Starts.came (h : c.Starts s) : c.Came s [] := by
  cases h with
  | get => exact .getting (.nil _)
  | deactivate => exact .retiring (.nil _)

theorem Came.snoc (h : c.Came s xs) (hmoves : c.Moves x c') : c'.Came s (xs ++ [x]) := by
  cases hmoves with
  | getting hstep =>
    cases h with
    | getting h => exact .getting (h.snoc hstep)
  | retiring hstep =>
    cases h with
    | retiring h => exact .retiring (h.snoc hstep)

theorem Came.adopts (hfallback : s.fallback = none) {id : String}
    (h : (Caller.getting pair (.done (.ok id))).Came s xs) : Adopts pair id xs := by
  cases h with
  | getting h => exact get_adopts hfallback h

theorem Came.retired {retired : Bool} (h : (Caller.retiring pair (.done (.ok retired))).Came s xs) :
    .deactivated pair (.ok retired) ∈ xs := by
  cases h with
  | retiring h =>
    obtain ⟨before, rfl⟩ := deactivate_ok h
    simp

end Caller

/-- A backend and everybody who has called so far. -/
structure Scene (σ : Type) where
  held : σ
  callers : List Caller

variable {σ : Type} {b : Ledger σ} {stores : Set Store}

namespace Scene

variable {c c' : Scene σ}

/-- What happens from one moment to the next: nothing, or a call starts, or a caller has a question answered. -/
inductive Step (b : Ledger σ) (stores : Set Store) (c : Scene σ) : Scene σ → Prop
  | rests : Step b stores c c
  | starts {s : Store} {caller : Caller} (hstore : s ∈ stores) (hstarts : caller.Starts s) :
    Step b stores c { c with callers := c.callers ++ [caller] }
  | moves {i : Nat} {caller caller' : Caller} {x : Exchange} {held : σ} (hi : c.callers[i]? = some caller)
    (hmoves : caller.Moves x caller') (hanswers : b.Answers c.held x held) :
    Step b stores c ⟨held, c.callers.set i caller'⟩

theorem Step.goes (hb : b.Lawful) (h : c.Step b stores c') : (b.holdings c.held).Goes (b.holdings c'.held) := by
  cases h with
  | rests => exact .rests
  | starts => exact .rests
  | moves _ _ hanswers => exact hanswers.goes hb

/-- How somebody comes to be where he is: he was there before, or starts now, or has just moved. -/
theorem Step.caller (h : c.Step b stores c') {i : Nat} {caller' : Caller} (hi : c'.callers[i]? = some caller') :
    c.callers[i]? = some caller' ∨ (c.callers.length ≤ i ∧ ∃ s ∈ stores, caller'.Starts s) ∨
      ∃ caller x, c.callers[i]? = some caller ∧ caller.Moves x caller' ∧ b.Answers c.held x c'.held := by
  cases h with
  | rests => exact .inl hi
  | starts hstore hstarts =>
    by_cases hlt : i < c.callers.length
    · rw [List.getElem?_append_left hlt] at hi
      exact .inl hi
    · rw [List.getElem?_append_right (by omega), List.getElem?_singleton] at hi
      split at hi
      · cases hi
        exact .inr (.inl ⟨by omega, _, hstore, hstarts⟩)
      · cases hi
  | @moves j caller moved x held hj hmoves hanswers =>
    by_cases hij : j = i
    · subst hij
      rw [List.getElem?_set_self (List.getElem?_eq_some_iff.1 hj).1] at hi
      cases hi
      exact .inr (.inr ⟨caller, x, hj, hmoves, hanswers⟩)
    · rw [List.getElem?_set_ne hij] at hi
      exact .inl hi

end Scene

/-- What goes on at a backend, moment by moment. Nobody has called before the first moment. -/
structure History (b : Ledger σ) (stores : Set Store) where
  moment : Nat → Scene σ
  first : (moment 0).callers = []
  step (t : Nat) : (moment t).Step b stores (moment (t + 1))

namespace History

variable (H : History b stores)

/-- The active identifier of a pair at a moment. -/
def active (t : Nat) (pair : Pair) : Option String := (b.holdings (H.moment t).held).active pair

/-- An exchange takes place after one moment and before another one. -/
def Between (t₀ t₁ : Nat) (x : Exchange) : Prop :=
  ∃ t, t₀ < t ∧ t < t₁ ∧ b.Answers (H.moment t).held x (H.moment (t + 1)).held

/-- A call that has not started at one moment and has come to `caller` at a later one. -/
structure Calls (i t₀ t₁ : Nat) (caller : Caller) : Prop where
  order : t₀ ≤ t₁
  before : (H.moment t₀).callers.length ≤ i
  after : (H.moment t₁).callers[i]? = some caller

/-- A request that starts after one moment is answered by another one with an identifier. -/
def Gets (i t₀ t₁ : Nat) (pair : Pair) (id : String) : Prop := H.Calls i t₀ t₁ (.getting pair (.done (.ok id)))

/-- A retirement that starts after one moment is reported by another one. -/
def Retires (i t₀ t₁ : Nat) (pair : Pair) : Prop := H.Calls i t₀ t₁ (.retiring pair (.done (.ok true)))

variable {H}

theorem Between.mono {t₀ t₁ t₂ : Nat} {x : Exchange} (h : H.Between t₀ t₁ x) (ht : t₁ ≤ t₂) : H.Between t₀ t₂ x := by
  obtain ⟨t, hlower, hupper, hanswers⟩ := h
  exact ⟨t, hlower, by omega, hanswers⟩

/-- All exchanges of a call take place during the call. -/
theorem Calls.came {i t₀ t₁ : Nat} {caller : Caller} (h : H.Calls i t₀ t₁ caller) :
    ∃ s ∈ stores, ∃ xs, caller.Came s xs ∧ ∀ x ∈ xs, H.Between t₀ t₁ x := by
  obtain ⟨order, before, after⟩ := h
  induction t₁, order using Nat.le_induction generalizing caller with
  | base =>
    have hlt := (List.getElem?_eq_some_iff.1 after).1
    omega
  | succ t order ih =>
    rcases (H.step t).caller after with hstays | ⟨-, s, hstore, hstarts⟩ | ⟨earlier, x, hearlier, hmoves, hanswers⟩
    · obtain ⟨s, hstore, xs, hcame, hbetween⟩ := ih hstays
      exact ⟨s, hstore, xs, hcame, fun x hx => (hbetween x hx).mono (by omega)⟩
    · exact ⟨s, hstore, [], hstarts.came, by simp⟩
    · obtain ⟨s, hstore, xs, hcame, hbetween⟩ := ih hearlier
      refine ⟨s, hstore, xs ++ [x], hcame.snoc hmoves, fun y hy => ?_⟩
      rcases List.mem_append.1 hy with hy | hy
      · exact (hbetween y hy).mono (by omega)
      · cases List.mem_singleton.1 hy
        -- somebody moves at `t`, so he was there already and `t` is not the moment before the call
        have hlater : t₀ ≠ t := by
          rintro rfl
          have hlt := (List.getElem?_eq_some_iff.1 hearlier).1
          omega
        exact ⟨t, by omega, by omega, hanswers⟩

theorem Between.active (hb : b.Lawful) {t₀ t₁ : Nat} {xs : List Exchange} {pair : Pair} {id : String}
    (hbetween : ∀ x ∈ xs, H.Between t₀ t₁ x) (h : Adopts pair id xs) :
    ∃ t, t₀ < t ∧ t ≤ t₁ ∧ H.active t pair = some id := by
  rcases h with hfound | hinserted
  · obtain ⟨t, hlower, hupper, hanswers⟩ := hbetween _ hfound
    exact ⟨t, hlower, by omega, (hb.find_active hanswers).symm⟩
  · obtain ⟨t, hlower, hupper, hanswers⟩ := hbetween _ hinserted
    exact ⟨t + 1, by omega, hupper, (hb.inserts hanswers).active⟩

/-- What is given out was active at some moment of the call. -/
theorem Gets.active (hb : b.Lawful) (hfallback : ∀ s ∈ stores, s.fallback = none) {i t₀ t₁ : Nat} {pair : Pair}
    {id : String} (h : H.Gets i t₀ t₁ pair id) : ∃ t, t₀ < t ∧ t ≤ t₁ ∧ H.active t pair = some id := by
  obtain ⟨s, hstore, xs, hcame, hbetween⟩ := Calls.came h
  exact Between.active hb hbetween (hcame.adopts (hfallback s hstore))

/-- In a stretch of time no active identifier of a pair is retired. -/
def Keeps (H : History b stores) (t₀ t₁ : Nat) (pair : Pair) : Prop :=
  ∀ t, t₀ ≤ t → t < t₁ → H.active t pair ≠ none → H.active (t + 1) pair ≠ none

theorem Keeps.active (hb : b.Lawful) {t₀ t₁ : Nat} {pair : Pair} (hkeeps : H.Keeps t₀ t₁ pair) {t t' : Nat}
    {id : String} (hlower : t₀ ≤ t) (hupper : t' ≤ t₁) (h : H.active t pair = some id) (ht : t ≤ t') :
    H.active t' pair = some id := by
  induction t', ht using Nat.le_induction with
  | base => exact h
  | succ t' ht ih =>
    have hnow := ih (by omega)
    rcases ((H.step t').goes hb).active hnow with hstays | hnone
    · exact hstays
    · exact absurd hnone (hkeeps t' (by omega) (by omega) (by rw [hnow]; simp))

/-- Identifiers are linearisable. -/
theorem ids_linearisable (hb : b.Lawful) (hfallback : ∀ s ∈ stores, s.fallback = none) (H : History b stores)
    (pair : Pair) :
    (∀ i t₀ t₁ id, H.Gets i t₀ t₁ pair id → ∃ t, t₀ < t ∧ t ≤ t₁ ∧ H.active t pair = some id) ∧
      ∀ first last, H.Keeps first last pair → ∀ i j t₀ t₁ u₀ u₁ id id', first ≤ t₀ → t₁ ≤ last → first ≤ u₀ →
        u₁ ≤ last → H.Gets i t₀ t₁ pair id → H.Gets j u₀ u₁ pair id' → id = id' := by
  refine ⟨fun i t₀ t₁ id h => Gets.active hb hfallback h, ?_⟩
  intro first last hkeeps i j t₀ t₁ u₀ u₁ id id' hfirst hlast hfirst' hlast' h h'
  obtain ⟨t, hlower, hupper, hactive⟩ := Gets.active hb hfallback h
  obtain ⟨t', hlower', hupper', hactive'⟩ := Gets.active hb hfallback h'
  have heq : some id = some id' := by
    rcases Nat.le_total t t' with ht | ht
    · rw [← hactive', hkeeps.active hb (by omega) (by omega) hactive ht]
    · rw [← hactive, hkeeps.active hb (by omega) (by omega) hactive' ht]
  exact Option.some.inj heq

end History

/-- What is left of a dialogue after some answers. -/
def Dialogue.tell {α : Type} : List Exchange → Dialogue α → Dialogue α
  | .found _ answer :: xs, .find _ next => (next answer).tell xs
  | .inserted _ _ answer :: xs, .insert _ _ next => (next answer).tell xs
  | .deactivated _ answer :: xs, .deactivate _ next => (next answer).tell xs
  | .drew id :: xs, .draw next => (next id).tell xs
  | .tossed chance :: xs, .toss next => (next chance).tell xs
  | _, d => d

/-! Two callers find no identifier for a pair. The second one is too late with his own and adopts the first. -/

namespace Race

def pair : Pair := ⟨"https://sp.example.org", "alice"⟩

/-- A store that draws identifiers and does not try again. -/
def store : Store where
  initial := .random
  retry := { maxAttempts := 1, baseDelay := 0, maxDelay := 0, factor := 1.0, jitter := false, retryable := [] }

/-- A caller who has been told something. -/
def told (pair : Pair) (xs : List Exchange) : Caller := .getting pair ((store.get pair).tell xs)

def tooLate : StoreError := ⟨.duplicate, "pair already has an active identifier"⟩

def issued : Register := ⟨[(pair, "x")], ["x"]⟩

def scene : Nat → Scene Register
  | 0 => ⟨{}, []⟩
  | 1 => ⟨{}, [told pair []]⟩
  | 2 => ⟨{}, [told pair [], told pair []]⟩
  | 3 => ⟨{}, [told pair [.found pair (.ok none)], told pair []]⟩
  | 4 => ⟨{}, [told pair [.found pair (.ok none)], told pair [.found pair (.ok none)]]⟩
  | 5 => ⟨{}, [told pair [.found pair (.ok none), .drew "x"], told pair [.found pair (.ok none)]]⟩
  | 6 => ⟨issued, [.getting pair (.done (.ok "x")), told pair [.found pair (.ok none)]]⟩
  | 7 => ⟨issued, [.getting pair (.done (.ok "x")), told pair [.found pair (.ok none), .drew "y"]]⟩
  | 8 => ⟨issued, [.getting pair (.done (.ok "x")),
      told pair [.found pair (.ok none), .drew "y", .inserted pair "y" (.error tooLate)]]⟩
  | _ + 9 => ⟨issued, [.getting pair (.done (.ok "x")), .getting pair (.done (.ok "x"))]⟩

def history : History Register.ledger {store} where
  moment := scene
  first := rfl
  step
    | 0 => .starts rfl (.get pair)
    | 1 => .starts rfl (.get pair)
    | 2 => .moves (i := 0) rfl (.getting (.find (.ok none))) ⟨rfl, rfl⟩
    | 3 => .moves (i := 1) rfl (.getting (.find (.ok none))) ⟨rfl, rfl⟩
    | 4 => .moves (i := 0) rfl (.getting (.draw "x")) rfl
    | 5 => .moves (i := 0) rfl (.getting (.insert (.ok ()))) rfl
    | 6 => .moves (i := 1) rfl (.getting (.draw "y")) rfl
    | 7 => .moves (i := 1) rfl (.getting (.insert (.error tooLate))) rfl
    | 8 => .moves (i := 1) rfl (.getting (.find (.ok (some "x")))) ⟨rfl, rfl⟩
    | _ + 9 => .rests

theorem keeps : history.Keeps 0 9 pair := by
  intro t _ ht
  revert t
  decide

theorem ids_linearisable_of_race :
    history.Gets 0 0 9 pair "x" ∧ history.Gets 1 1 9 pair "x" ∧
      (∃ t, 1 < t ∧ t ≤ 9 ∧ history.active t pair = some "x") ∧ ∀ id, history.Gets 0 0 9 pair id → id = "x" := by
  have hfallback : ∀ s ∈ ({store} : Set Store), s.fallback = none := by
    rintro s rfl
    rfl
  have hsecond : history.Gets 1 1 9 pair "x" := ⟨by decide, Nat.le_refl _, rfl⟩
  obtain ⟨hactive, hstretch⟩ := History.ids_linearisable Register.ledger_lawful hfallback history pair
  refine ⟨⟨by decide, Nat.le_refl _, rfl⟩, hsecond, hactive 1 1 9 "x" hsecond, fun id hfirst => ?_⟩
  exact hstretch 0 9 keeps 0 1 0 9 1 9 id "x" (by decide) (by decide) (by decide) (by decide) hfirst hsecond

end Race

end AttributeRelease.Pairwise
