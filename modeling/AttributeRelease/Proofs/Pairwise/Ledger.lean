import AttributeRelease.Pairwise.Register
import AttributeRelease.Proofs.Pairwise.Exchanges
import Mathlib.Logic.Function.Basic

/-!
The contract of a backend of pairwise identifiers: which identifier is active for a pair, which ones were ever
issued, and how each question changes that. Any question may fail, and one that fails may have been heeded.
The register in memory keeps the contract and never fails.
-/

namespace AttributeRelease.Pairwise

/-- Which identifier is active for each pair, and which were ever issued. -/
structure Holdings where
  active : Pair → Option String
  issued : String → Prop

namespace Holdings

variable {pair pair' : Pair} {id : String} {h h' : Holdings}

/-- An identifier becomes the active one of a pair. -/
def issue (h : Holdings) (pair : Pair) (id : String) : Holdings where
  active := Function.update h.active pair (some id)
  issued i := i = id ∨ h.issued i

/-- A pair has no active identifier any more. -/
def retire (h : Holdings) (pair : Pair) : Holdings :=
  { h with active := Function.update h.active pair none }

@[simp] theorem active_issue_self : (h.issue pair id).active pair = some id := Function.update_self ..

@[simp] theorem active_issue_of_ne (hne : pair ≠ pair') : (h.issue pair' id).active pair = h.active pair :=
  Function.update_of_ne hne ..

@[simp] theorem active_retire_self : (h.retire pair).active pair = none := Function.update_self ..

@[simp] theorem active_retire_of_ne (hne : pair ≠ pair') : (h.retire pair').active pair = h.active pair :=
  Function.update_of_ne hne ..

/-- The two rules of uniqueness: the pair has no active identifier, and the identifier was never issued. -/
def Admits (h : Holdings) (pair : Pair) (id : String) : Prop :=
  h.active pair = none ∧ ¬ h.issued id

/-- What may be answered to an insertion, and what is held afterwards. An entry may have been made although a
failure is reported, unless the failure is that it is a duplicate. -/
inductive Inserts (h : Holdings) (pair : Pair) (id : String) : Except StoreError Unit → Holdings → Prop
  | stored (hadmits : h.Admits pair id) : Inserts h pair id (.ok ()) (h.issue pair id)
  | refused (e : StoreError) : Inserts h pair id (.error e) h
  | lost (e : StoreError) (hkind : e.kind ≠ .duplicate) (hadmits : h.Admits pair id) :
    Inserts h pair id (.error e) (h.issue pair id)

/-- What may be answered to a retirement, and what is held afterwards. -/
inductive Deactivates (h : Holdings) (pair : Pair) : Except StoreError Bool → Holdings → Prop
  | retired : Deactivates h pair (.ok (h.active pair).isSome) (h.retire pair)
  | refused (e : StoreError) : Deactivates h pair (.error e) h
  | lost (e : StoreError) : Deactivates h pair (.error e) (h.retire pair)

/-- All that ever happens to what is held. -/
inductive Goes (h : Holdings) : Holdings → Prop
  | rests : Goes h h
  | issues (pair : Pair) (id : String) (hadmits : h.Admits pair id) : Goes h (h.issue pair id)
  | retires (pair : Pair) : Goes h (h.retire pair)

theorem Inserts.goes {answer : Except StoreError Unit} (hinserts : h.Inserts pair id answer h') : h.Goes h' := by
  cases hinserts with
  | stored hadmits => exact .issues pair id hadmits
  | refused => exact .rests
  | lost e _ hadmits => exact .issues pair id hadmits

theorem Deactivates.goes {answer : Except StoreError Bool} (hdeactivates : h.Deactivates pair answer h') :
    h.Goes h' := by
  cases hdeactivates with
  | retired => exact .retires pair
  | refused => exact .rests
  | lost => exact .retires pair

theorem Inserts.active (hinserts : h.Inserts pair id (.ok ()) h') : h'.active pair = some id := by
  cases hinserts
  exact active_issue_self

theorem Deactivates.retires (hdeactivates : h.Deactivates pair (.ok true) h') :
    ∃ id, h.active pair = some id ∧ h'.active pair = none := by
  generalize hanswer : (Except.ok true : Except StoreError Bool) = answer at hdeactivates
  cases hdeactivates with
  | retired =>
    obtain ⟨id, hactive⟩ := Option.isSome_iff_exists.1 (Except.ok.inj hanswer).symm
    exact ⟨id, hactive, active_retire_self⟩
  | refused => cases hanswer
  | lost => cases hanswer

/-- An active identifier stays until its pair has none. -/
theorem Goes.active (hgoes : h.Goes h') (hactive : h.active pair = some id) :
    h'.active pair = some id ∨ h'.active pair = none := by
  cases hgoes with
  | rests => exact .inl hactive
  | issues other new hadmits =>
    have hne : pair ≠ other := by
      rintro rfl
      rw [hadmits.1] at hactive
      cases hactive
    exact .inl ((active_issue_of_ne hne).trans hactive)
  | retires other =>
    by_cases hpair : pair = other
    · subst hpair
      exact .inr active_retire_self
    · exact .inl ((active_retire_of_ne hpair).trans hactive)

end Holdings

/-- A backend that answers one question at a time. What it answers may be left open. -/
structure Ledger (σ : Type) where
  holdings : σ → Holdings
  Find : σ → Pair → Except StoreError (Option String) → σ → Prop
  Insert : σ → Pair → String → Except StoreError Unit → σ → Prop
  Deactivate : σ → Pair → Except StoreError Bool → σ → Prop

namespace Ledger

variable {σ : Type} {b : Ledger σ} {s s' : σ}

/-- A backend keeps the contract. Any question may fail at any time. -/
structure Lawful (b : Ledger σ) : Prop where
  find_keeps {s s' : σ} {pair : Pair} {answer : Except StoreError (Option String)} (h : b.Find s pair answer s') :
    b.holdings s' = b.holdings s
  find_active {s s' : σ} {pair : Pair} {found : Option String} (h : b.Find s pair (.ok found) s') :
    found = (b.holdings s).active pair
  inserts {s s' : σ} {pair : Pair} {id : String} {answer : Except StoreError Unit}
    (h : b.Insert s pair id answer s') : (b.holdings s).Inserts pair id answer (b.holdings s')
  deactivates {s s' : σ} {pair : Pair} {answer : Except StoreError Bool} (h : b.Deactivate s pair answer s') :
    (b.holdings s).Deactivates pair answer (b.holdings s')

/-- One exchange with a backend. It is not asked for what a dialogue does for itself. -/
def Answers (b : Ledger σ) (s : σ) : Exchange → σ → Prop
  | .found pair answer, s' => b.Find s pair answer s'
  | .inserted pair id answer, s' => b.Insert s pair id answer s'
  | .deactivated pair answer, s' => b.Deactivate s pair answer s'
  | .drew _, s' | .tossed _, s' | .slept _, s' => s' = s

theorem Answers.goes (hb : b.Lawful) {x : Exchange} (h : b.Answers s x s') :
    (b.holdings s).Goes (b.holdings s') := by
  cases x with
  | found pair answer =>
    rw [hb.find_keeps h]
    exact .rests
  | inserted pair id answer => exact (hb.inserts h).goes
  | deactivated pair answer => exact (hb.deactivates h).goes
  | drew | tossed | slept =>
    subst h
    exact .rests

end Ledger

namespace Register

/-- A register answers all it is asked and never fails. -/
def ledger : Ledger Register where
  holdings r := ⟨r.find?, (· ∈ r.issued)⟩
  Find r pair answer r' := answer = .ok (r.find? pair) ∧ r' = r
  Insert r pair id answer r' := (answer, r') = r.insert pair id
  Deactivate r pair answer r' := answer = .ok (r.deactivate pair).1 ∧ r' = (r.deactivate pair).2

theorem lookup_cons (e : Pair × String) (es : List (Pair × String)) :
    (fun pair => (e :: es).lookup pair) = Function.update (fun pair => es.lookup pair) e.1 (some e.2) := by
  funext pair
  rw [Function.update_apply, List.lookup_cons]
  by_cases h : pair = e.1
  · simp [h]
  · simp [h, beq_false_of_ne h]

theorem lookup_filter (pair : Pair) (es : List (Pair × String)) :
    (fun other => (es.filter (·.1 ≠ pair)).lookup other) =
      Function.update (fun other => es.lookup other) pair none := by
  induction es with
  | nil => exact (Function.update_eq_self pair _).symm
  | cons e rest ih =>
    by_cases h : e.1 = pair
    · rw [List.filter_cons_of_neg (by simpa using h), ih, lookup_cons, h, Function.update_idem]
    · rw [List.filter_cons_of_pos (by simpa using h), lookup_cons, lookup_cons, ih, Function.update_comm h]

theorem holdings_insert (r : Register) (pair : Pair) (id : String) :
    ledger.holdings ⟨(pair, id) :: r.active, id :: r.issued⟩ = (ledger.holdings r).issue pair id :=
  congrArg₂ Holdings.mk (lookup_cons _ _) (by funext i; simp [ledger])

theorem holdings_deactivate (r : Register) (pair : Pair) :
    ledger.holdings (r.deactivate pair).2 = (ledger.holdings r).retire pair :=
  congrArg (Holdings.mk · _) (lookup_filter pair r.active)

theorem insert_cases {r r' : Register} {pair : Pair} {id : String} {answer : Except StoreError Unit}
    (h : (answer, r') = r.insert pair id) :
    (∃ e, answer = .error e ∧ r' = r) ∨
      answer = .ok () ∧ r' = ⟨(pair, id) :: r.active, id :: r.issued⟩ ∧ r.find? pair = none ∧ id ∉ r.issued := by
  by_cases hpair : (r.find? pair).isSome
  · rw [insert, if_pos hpair] at h
    cases h
    exact .inl ⟨_, rfl, rfl⟩
  · by_cases hid : id ∈ r.issued
    · rw [insert, if_neg hpair, if_pos hid] at h
      cases h
      exact .inl ⟨_, rfl, rfl⟩
    · rw [insert, if_neg hpair, if_neg hid] at h
      cases h
      exact .inr ⟨rfl, rfl, Option.not_isSome_iff_eq_none.1 hpair, hid⟩

theorem ledger_lawful : ledger.Lawful where
  find_keeps h := by rw [h.2]
  find_active h := Except.ok.inj h.1
  inserts {r r' pair id answer} h := by
    rcases insert_cases h with ⟨e, rfl, rfl⟩ | ⟨rfl, rfl, hpair, hid⟩
    · exact .refused e
    · rw [holdings_insert]
      exact .stored ⟨hpair, hid⟩
  deactivates {r r' pair answer} h := by
    obtain ⟨rfl, rfl⟩ := h
    rw [holdings_deactivate]
    exact .retired

end Register

end AttributeRelease.Pairwise
