import AttributeRelease.Proofs.Pairwise.Outages
import AttributeRelease.Proofs.Pairwise.Uniqueness

/-!
What becomes of a retired identifier. The backend never makes it active again, so a store that asks the backend
does not give it out. A store with a fallback computes what it gives out while the backend is out of reach, and
that is the first identifier the pair ever had, whether it was retired meanwhile or not.
-/

namespace AttributeRelease.Pairwise

open Config (PairwiseSettings)
open Dialogue (Path)

variable {σ : Type} {b : Ledger σ} {stores : Set Store}

namespace History

/-- The backend is out of reach or busy when it is asked about a pair. -/
def Strands (H : History b stores) (t₀ t₁ : Nat) (pair : Pair) : Prop :=
  ∃ e : StoreError, (e.kind = .connectivity ∨ e.kind = .lockTimeout) ∧
    (H.Between t₀ t₁ (.found pair (.error e)) ∨ ∃ id, H.Between t₀ t₁ (.inserted pair id (.error e)))

/-- A store of settings falls back on the identifier that they compute. -/
def FallsBackOn (stores : Set Store) (pair : Pair) (id : String) : Prop :=
  ∃ s ∈ stores, ∃ settings g, Store.ofSettings settings = .ok s ∧ settings.fallsBack = true ∧
    Generator.ofSettings settings = .ok g ∧ id = g.generate pair

variable {H : History b stores} {pair : Pair} {id : String}

theorem Gets.active_or_stranded (hb : b.Lawful)
    (hstores : ∀ s ∈ stores, ∃ settings, Store.ofSettings settings = .ok s) {i t₀ t₁ : Nat}
    (h : H.Gets i t₀ t₁ pair id) :
    (∃ t, t₀ < t ∧ t ≤ t₁ ∧ H.active t pair = some id) ∨ H.Strands t₀ t₁ pair ∧ FallsBackOn stores pair id := by
  obtain ⟨s, hs, xs, hcame, hbetween⟩ := Calls.came h
  obtain ⟨settings, hsettings⟩ := hstores s hs
  obtain ⟨g, hg, rfl⟩ := Store.ofSettings_eq_ok hsettings
  cases hcame with
  | getting hpath =>
    rcases get_cases hpath with hadopts | ⟨g', e, hfallback, rfl, hpass, hfailed⟩
    · exact .inl (Between.active hb hbetween hadopts)
    · have hkind := (RetryPolicy.isRetryable_ofSettings_iff settings e).1 hpass
      refine .inr ⟨⟨e, hkind, ?_⟩, _, hs, settings, g', hsettings, ?_⟩
      · cases retry_restsOn hfailed with
        | failed hfails => exact hfails.imp (hbetween _) fun ⟨id, hid⟩ => ⟨id, hbetween _ hid⟩
        | exhausted => rcases hkind with hkind | hkind <;> cases hkind
      · cases hfalls : settings.fallsBack with
        | false => simp [hfalls] at hfallback
        | true =>
          simp only [hfalls, if_true, Option.some.injEq] at hfallback
          exact ⟨rfl, hfallback ▸ hg, rfl⟩

end History

/-- **A retired identifier comes back only by the fallback.** Once a retirement is reported, a call that starts later
comes to the retired identifier only if the backend was out of reach or busy during that call, the store falls
back, and the identifier is the computed one. So it never does where no store falls back. Where one does, whoever
fails to the end in this way is given the computed identifier, be it retired or not. -/
theorem retired_ids_come_back_by_fallback (hb : b.Lawful)
    (hstores : ∀ s ∈ stores, ∃ settings, Store.ofSettings settings = .ok s) (H : History b stores)
    (hsound : (b.holdings (H.moment 0).held).Sound) :
    (∀ i t₀ t₁ pair, H.Retires i t₀ t₁ pair → ∃ t id, t₀ < t ∧ t < t₁ ∧ H.active t pair = some id ∧
      H.active (t + 1) pair = none ∧ ∀ j u₀ u₁, t₁ ≤ u₀ → H.Gets j u₀ u₁ pair id →
        H.Strands u₀ u₁ pair ∧ History.FallsBackOn stores pair id) ∧
    ∀ s ∈ stores, ∀ g, s.fallback = some g → ∀ pair xs e, s.retry.isRetryable e = true →
      Path (s.retry.retry (s.getOnce pair)) xs (.done (.error e)) →
        Path (s.get pair) xs (.done (.ok (g.generate pair))) := by
  refine ⟨fun i t₀ t₁ pair hretires => ?_, fun s _ g hfallback pair xs e hpass hfailed => ?_⟩
  · obtain ⟨t, id, hlower, hupper, hactive, hnone⟩ := hretires.active hb
    refine ⟨t, id, hlower, hupper, hactive, hnone, fun j u₀ u₁ hlater hgets => ?_⟩
    rcases hgets.active_or_stranded hb hstores with ⟨u, hu, -, hagain⟩ | hstranded
    · exact absurd hagain (History.active_ne hb hsound (by omega) hactive hnone)
    · exact hstranded
  · exact get_fallback hfallback hpass hfailed

/-! An identifier is retired, and then the backend is away. -/

namespace Revived

open Outage

def retired : Register := ⟨[], [generator.generate alice]⟩

def reported : Caller := .retiring alice (.done (.ok true))

def scene : Nat → Scene Register
  | 0 => ⟨{}, []⟩
  | 1 => ⟨{}, [told true alice []]⟩
  | 2 => ⟨{}, [told true alice [.found alice (.ok none)]]⟩
  | 3 => ⟨issued, [served alice]⟩
  | 4 => ⟨issued, [served alice, .retiring alice ((store true).deactivate alice)]⟩
  | 5 => ⟨retired, [served alice, reported]⟩
  | 6 => ⟨retired, [served alice, reported, told true alice []]⟩
  | _ + 7 => ⟨retired, [served alice, reported, served alice]⟩

def history : History Register.unreliable {store true} where
  moment := scene
  first := rfl
  step
    | 0 => .starts rfl (.get alice)
    | 1 => .moves (i := 0) rfl (.getting (.find (.ok none))) (.inl ⟨rfl, rfl⟩)
    | 2 => .moves (i := 0) rfl (.getting (.insert (.ok ()))) (.inl rfl)
    | 3 => .starts rfl (.deactivate alice)
    | 4 => .moves (i := 1) rfl (.retiring (.deactivate (.ok true))) (.inl ⟨rfl, rfl⟩)
    | 5 => .starts rfl (.get alice)
    | 6 => .moves (i := 2) rfl (.getting (.find (.error away))) (.inr ⟨away, rfl, rfl⟩)
    | _ + 7 => .rests

/-- The identifier that was retired is given out again. -/
theorem gives_out_what_was_retired :
    history.Gets 0 0 3 alice (generator.generate alice) ∧ history.Retires 1 3 5 alice ∧
      history.Gets 2 5 7 alice (generator.generate alice) ∧ history.active 4 alice = some (generator.generate alice) ∧
      history.active 5 alice = none :=
  ⟨⟨by decide, by decide, rfl⟩, ⟨by decide, by decide, rfl⟩, ⟨by decide, by decide, rfl⟩, rfl, rfl⟩

theorem retired_ids_come_back_by_fallback_of_revived :
    history.Retires 1 3 5 alice ∧ history.Gets 2 5 7 alice (generator.generate alice) ∧ history.Strands 5 7 alice ∧
      History.FallsBackOn {store true} alice (generator.generate alice) := by
  have hretires : history.Retires 1 3 5 alice := ⟨by decide, by decide, rfl⟩
  have hgets : history.Gets 2 5 7 alice (generator.generate alice) := ⟨by decide, by decide, rfl⟩
  have hstores : ∀ s ∈ ({store true} : Set Store), ∃ settings, Store.ofSettings settings = .ok s := by
    rintro s rfl
    exact ⟨{ settings with fallsBack := true }, rfl⟩
  obtain ⟨hlater, -⟩ := retired_ids_come_back_by_fallback Register.unreliable_lawful hstores history ⟨nofun, nofun⟩
  obtain ⟨t, id, hlower, hupper, hactive, -, honly⟩ := hlater 1 3 5 alice hretires
  obtain rfl : t = 4 := by omega
  obtain rfl : generator.generate alice = id := Option.some.inj hactive
  exact ⟨hretires, hgets, honly 2 5 7 (Nat.le_refl _) hgets⟩

end Revived

end AttributeRelease.Pairwise
