import AttributeRelease.Pairwise.Settings
import AttributeRelease.Proofs.Pairwise.Histories

/-!
Backends out of reach. A question may fail before or after it was heeded, and whoever asked cannot tell. Only a
duplicate is never reported in vain by a candid backend. The register with an unreliable line to it is such a
backend; stores made from settings are what is used with it.
-/

namespace AttributeRelease.Pairwise

open Config (PairwiseSettings)

/-- A duplicate is reported only of what breaks a rule of uniqueness. -/
def Ledger.Candid {σ : Type} (b : Ledger σ) : Prop :=
  ∀ s pair id e s', b.Insert s pair id (.error e) s' → e.kind = .duplicate → ¬ (b.holdings s).Admits pair id

namespace Holdings

variable {h h' : Holdings} {pair : Pair} {id : String}

/-- The answer to what was heeded may be lost. -/
theorem Inserts.unheard {answer : Except StoreError Unit} (hinserts : h.Inserts pair id answer h') {e : StoreError}
    (hkind : e.kind ≠ .duplicate) : h.Inserts pair id (.error e) h' := by
  cases hinserts with
  | stored hadmits => exact .lost e hkind hadmits
  | refused => exact .refused e
  | lost _ _ hadmits => exact .lost e hkind hadmits

theorem Deactivates.unheard {answer : Except StoreError Bool} (hdeactivates : h.Deactivates pair answer h')
    (e : StoreError) : h.Deactivates pair (.error e) h' := by
  cases hdeactivates with
  | retired => exact .lost e
  | refused => exact .refused e
  | lost => exact .lost e

end Holdings

namespace Register

/-- A register behind a line on which questions and answers get lost. -/
def unreliable : Ledger Register where
  holdings := ledger.holdings
  Find r pair answer r' := ledger.Find r pair answer r' ∨ ∃ e, answer = .error e ∧ r' = r
  Insert r pair id answer r' := ledger.Insert r pair id answer r' ∨
    ∃ e, e.kind ≠ .duplicate ∧ answer = .error e ∧ (r' = r ∨ r' = (r.insert pair id).2)
  Deactivate r pair answer r' := ledger.Deactivate r pair answer r' ∨
    ∃ e, answer = .error e ∧ (r' = r ∨ r' = (r.deactivate pair).2)

theorem unreliable_lawful : unreliable.Lawful where
  find_keeps h := by
    rcases h with h | ⟨e, -, rfl⟩
    · exact ledger_lawful.find_keeps h
    · rfl
  find_active h := by
    rcases h with h | ⟨e, he, -⟩
    · exact ledger_lawful.find_active h
    · cases he
  inserts {r r' pair id answer} h := by
    rcases h with h | ⟨e, hkind, rfl, rfl | rfl⟩
    · exact ledger_lawful.inserts h
    · exact .refused e
    · have hheeded : ledger.Insert r pair id (r.insert pair id).1 (r.insert pair id).2 := rfl
      exact (ledger_lawful.inserts hheeded).unheard hkind
  deactivates {r r' pair answer} h := by
    rcases h with h | ⟨e, rfl, rfl | rfl⟩
    · exact ledger_lawful.deactivates h
    · exact .refused e
    · have hheeded : ledger.Deactivate r pair (.ok (r.deactivate pair).1) (r.deactivate pair).2 := ⟨rfl, rfl⟩
      exact (ledger_lawful.deactivates hheeded).unheard e

theorem unreliable_candid : unreliable.Candid := by
  intro r pair id e r' h hkind hadmits
  have hpair : r.find? pair = none := hadmits.1
  have hid : id ∉ r.issued := hadmits.2
  rcases h with h | ⟨e', hother, he, -⟩
  · have hinsert : (.error e, r') = r.insert pair id := h
    rw [insert, hpair, if_neg (by simp), if_neg hid] at hinsert
    cases hinsert
  · cases he
    exact hother hkind

end Register

theorem Store.ofSettings_eq_ok {settings : PairwiseSettings} {s : Store} (h : Store.ofSettings settings = .ok s) :
    ∃ g, Generator.ofSettings settings = .ok g ∧ s =
      { initial := .computed g, retry := .ofSettings settings, fallback := if settings.fallsBack then some g else none } := by
  unfold Store.ofSettings at h
  cases hg : Generator.ofSettings settings with
  | error e =>
    rw [hg] at h
    cases h
  | ok g =>
    rw [hg] at h
    cases h
    exact ⟨g, rfl, rfl⟩

/-- Only a backend out of reach or busy is tried again. -/
theorem RetryPolicy.isRetryable_ofSettings_iff (settings : PairwiseSettings) (e : StoreError) :
    (RetryPolicy.ofSettings settings).isRetryable e = true ↔ e.kind = .connectivity ∨ e.kind = .lockTimeout := by
  simp [isRetryable, ofSettings]

/-! Stores of settings that try once, with and without a fallback. -/

namespace Outage

def alice : Pair := ⟨"https://sp.example.org", "alice"⟩

def bob : Pair := ⟨"https://sp.example.org", "bob"⟩

def settings : PairwiseSettings := { maxAttempts := 1, salt := some ⟨[112, 101, 112, 112, 101, 114]⟩ }

def generator : Generator := { salt := ⟨[112, 101, 112, 112, 101, 114]⟩ }

def store (fallsBack : Bool) : Store where
  initial := .computed generator
  retry := .ofSettings settings
  fallback := if fallsBack then some generator else none

/-- A caller who has been told something. -/
def told (fallsBack : Bool) (pair : Pair) (xs : List Exchange) : Caller :=
  .getting pair (((store fallsBack).get pair).tell xs)

def served (pair : Pair) : Caller := .getting pair (.done (.ok (generator.generate pair)))

def away : StoreError := ⟨.connectivity, "connection lost"⟩

def issued : Register := ⟨[(alice, generator.generate alice)], [generator.generate alice]⟩

end Outage

end AttributeRelease.Pairwise
