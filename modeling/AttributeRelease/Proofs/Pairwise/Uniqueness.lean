import AttributeRelease.Keyed
import AttributeRelease.Proofs.Pairwise.Histories
import Mathlib.Data.List.Nodup
import Mathlib.Logic.Relation

/-!
An identifier belongs to one pair for ever. It is issued once, so only the pair that it was issued to ever has
it, and once it is retired nobody has it again. What stores give out was active at some moment, so it is never
given out for two pairs, nor to anybody who asks after it was retired.
-/

namespace AttributeRelease.Pairwise

namespace Holdings

variable {h h' : Holdings} {pair pair' : Pair} {id : String} {holders : Pair → Prop}

/-- Active identifiers were issued, and each of them to one pair. -/
structure Sound (h : Holdings) : Prop where
  issued {pair : Pair} {id : String} (hactive : h.active pair = some id) : h.issued id
  unique {pair pair' : Pair} {id : String} (hactive : h.active pair = some id) (hactive' : h.active pair' = some id) :
    pair = pair'

/-- An identifier was issued, and only some pairs can have it. -/
structure Bound (h : Holdings) (id : String) (holders : Pair → Prop) : Prop where
  issued : h.issued id
  holds {pair : Pair} (hactive : h.active pair = some id) : holders pair

/-- Anything that may happen in the course of time. -/
abbrev Leads : Holdings → Holdings → Prop := Relation.ReflTransGen Goes

/-- What becomes active was not issued before. -/
theorem Goes.before (hgoes : h.Goes h') (hactive : h'.active pair = some id) :
    h.active pair = some id ∨ ¬ h.issued id ∧ h' = h.issue pair id := by
  cases hgoes with
  | rests => exact .inl hactive
  | issues other new hadmits =>
    by_cases hpair : pair = other
    · subst hpair
      rw [active_issue_self] at hactive
      cases hactive
      exact .inr ⟨hadmits.2, rfl⟩
    · exact .inl (by rwa [active_issue_of_ne hpair] at hactive)
  | retires other =>
    by_cases hpair : pair = other
    · subst hpair
      rw [active_retire_self] at hactive
      cases hactive
    · exact .inl (by rwa [active_retire_of_ne hpair] at hactive)

theorem Goes.issued (hgoes : h.Goes h') (hid : h.issued id) : h'.issued id := by
  cases hgoes with
  | rests => exact hid
  | issues => exact .inr hid
  | retires => exact hid

theorem Goes.sound (hgoes : h.Goes h') (hsound : h.Sound) : h'.Sound where
  issued {pair id} hactive := by
    rcases hgoes.before hactive with hbefore | ⟨-, rfl⟩
    · exact hgoes.issued (hsound.issued hbefore)
    · exact .inl rfl
  unique {pair pair' id} hactive hactive' := by
    rcases hgoes.before hactive with hbefore | ⟨hfresh, rfl⟩
    · rcases hgoes.before hactive' with hbefore' | ⟨hfresh, -⟩
      · exact hsound.unique hbefore hbefore'
      · exact absurd (hsound.issued hbefore) hfresh
    · by_contra hpair
      rw [active_issue_of_ne (Ne.symm hpair)] at hactive'
      exact hfresh (hsound.issued hactive')

theorem Goes.bound (hgoes : h.Goes h') (hbound : h.Bound id holders) : h'.Bound id holders where
  issued := hgoes.issued hbound.issued
  holds hactive := by
    rcases hgoes.before hactive with hbefore | ⟨hfresh, -⟩
    · exact hbound.holds hbefore
    · exact absurd hbound.issued hfresh

theorem Leads.issued (hleads : h.Leads h') (hid : h.issued id) : h'.issued id := by
  induction hleads with
  | refl => exact hid
  | tail _ hgoes ih => exact hgoes.issued ih

theorem Leads.sound (hleads : h.Leads h') (hsound : h.Sound) : h'.Sound := by
  induction hleads with
  | refl => exact hsound
  | tail _ hgoes ih => exact hgoes.sound ih

theorem Leads.bound (hleads : h.Leads h') (hbound : h.Bound id holders) : h'.Bound id holders := by
  induction hleads with
  | refl => exact hbound
  | tail _ hgoes ih => exact hgoes.bound ih

/-- An active identifier is that of its pair. -/
theorem Sound.bound (hsound : h.Sound) (hactive : h.active pair = some id) : h.Bound id (· = pair) :=
  ⟨hsound.issued hactive, fun hother => hsound.unique hother hactive⟩

/-- An identifier that its pair has no more is nobody's. -/
theorem Bound.retired (hbound : h.Bound id (· = pair)) (hnone : h.active pair = none) :
    h.Bound id fun _ => False where
  issued := hbound.issued
  holds hactive := by
    cases hbound.holds hactive
    rw [hnone] at hactive
    cases hactive

end Holdings

open Holdings (Bound Leads)

/-- Any number of questions, asked by anybody. -/
def Ledger.Leads {σ : Type} (b : Ledger σ) : σ → σ → Prop := Relation.ReflTransGen fun s s' => ∃ x, b.Answers s x s'

theorem Ledger.Leads.holdings {σ : Type} {b : Ledger σ} (hb : b.Lawful) {s s' : σ} (h : b.Leads s s') :
    Holdings.Leads (b.holdings s) (b.holdings s') := by
  induction h with
  | refl => exact .refl
  | tail _ hstep ih =>
    obtain ⟨x, hanswers⟩ := hstep
    exact ih.tail (hanswers.goes hb)

namespace Register

variable {r r' : Register} {pair : Pair} {id : String}

theorem sound_empty : (ledger.holdings {}).Sound := ⟨nofun, nofun⟩

theorem answers_keys {x : Exchange} (h : ledger.Answers r x r') (hkeys : (r.active.map Prod.fst).Nodup) :
    (r'.active.map Prod.fst).Nodup := by
  cases x with
  | found =>
    cases h.2
    exact hkeys
  | inserted pair id answer =>
    rcases insert_cases h with ⟨e, -, rfl⟩ | ⟨-, rfl, hpair, -⟩
    · exact hkeys
    · have hnew : pair ∉ r.active.map Prod.fst := by
        intro hmem
        obtain ⟨⟨p, id'⟩, hentry, rfl⟩ := List.mem_map.1 hmem
        have hactive : r.find? p = some id' := (Keyed.lookup_eq_some_iff hkeys).2 hentry
        rw [hpair] at hactive
        cases hactive
      exact List.nodup_cons.2 ⟨hnew, hkeys⟩
  | deactivated =>
    rw [h.2]
    exact hkeys.sublist (List.filter_sublist.map _)
  | drew | tossed | slept =>
    cases h
    exact hkeys

theorem leads_keys (h : ledger.Leads {} r) : (r.active.map Prod.fst).Nodup := by
  induction h with
  | refl => exact List.nodup_nil
  | tail _ hstep ih =>
    obtain ⟨x, hanswers⟩ := hstep
    exact answers_keys hanswers ih

theorem mem_active_iff (h : ledger.Leads {} r) : (pair, id) ∈ r.active ↔ r.find? pair = some id :=
  (Keyed.lookup_eq_some_iff (leads_keys h)).symm

theorem leads_sound (h : ledger.Leads {} r) : (ledger.holdings r).Sound :=
  (Ledger.Leads.holdings ledger_lawful h).sound sound_empty

/-- Whoever has an identifier in a register has it alone. -/
theorem leads_ids (h : ledger.Leads {} r) : (r.active.map Prod.snd).Nodup := by
  refine List.Nodup.map_on ?_ (leads_keys h).of_map
  rintro ⟨pair, id⟩ hmem ⟨pair', id'⟩ hmem' rfl
  rw [mem_active_iff h] at hmem hmem'
  rw [(leads_sound h).unique hmem hmem']

/-- An identifier that was retired from a register never comes back. -/
theorem leads_retired (h : ledger.Leads {} r) (hmem : (pair, id) ∈ r.active)
    (hafter : ledger.Leads (r.deactivate pair).2 r') : id ∉ r'.active.map Prod.snd := by
  have hbefore := (leads_sound h).bound ((mem_active_iff h).1 hmem)
  have hretired : (ledger.holdings (r.deactivate pair).2).Bound id fun _ => False := by
    rw [holdings_deactivate]
    exact ((Holdings.Goes.retires pair).bound hbefore).retired Holdings.active_retire_self
  intro hback
  obtain ⟨⟨other, id'⟩, hentry, rfl⟩ := List.mem_map.1 hback
  have hleads : ledger.Leads {} r' := (h.tail ⟨.deactivated pair (.ok (r.deactivate pair).1), rfl, rfl⟩).trans hafter
  exact ((hafter.holdings ledger_lawful).bound hretired).holds ((mem_active_iff hleads).1 hentry)

end Register

/-! ### Histories -/

namespace History

variable {σ : Type} {b : Ledger σ} {stores : Set Store} {H : History b stores} {pair pair' : Pair} {id : String}

theorem leads (hb : b.Lawful) (H : History b stores) {t t' : Nat} (ht : t ≤ t') :
    (b.holdings (H.moment t).held).Leads (b.holdings (H.moment t').held) := by
  induction t', ht using Nat.le_induction with
  | base => exact .refl
  | succ t' _ ih => exact ih.tail ((H.step t').goes hb)

theorem sound (hb : b.Lawful) (hsound : (b.holdings (H.moment 0).held).Sound) (t : Nat) :
    (b.holdings (H.moment t).held).Sound :=
  (H.leads hb t.zero_le).sound hsound

/-- An identifier that is active at two moments is so for the same pair. -/
theorem active_unique (hb : b.Lawful) (hsound : (b.holdings (H.moment 0).held).Sound) {t t' : Nat} (ht : t ≤ t')
    (hactive : H.active t pair = some id) (hactive' : H.active t' pair' = some id) : pair' = pair :=
  ((H.leads hb ht).bound ((sound hb hsound t).bound hactive)).holds hactive'

/-- An identifier that was retired is not active again. -/
theorem active_ne (hb : b.Lawful) (hsound : (b.holdings (H.moment 0).held).Sound) {t t' : Nat} (ht : t < t')
    (hactive : H.active t pair = some id) (hretired : H.active (t + 1) pair = none) :
    H.active t' pair' ≠ some id := by
  intro hactive'
  have hnext := ((H.step t).goes hb).bound ((sound hb hsound t).bound hactive)
  exact ((H.leads hb ht).bound (hnext.retired hretired)).holds hactive'

/-- A retirement that is reported took place during the call. -/
theorem Retires.active (hb : b.Lawful) {i t₀ t₁ : Nat} (h : H.Retires i t₀ t₁ pair) :
    ∃ t id, t₀ < t ∧ t < t₁ ∧ H.active t pair = some id ∧ H.active (t + 1) pair = none := by
  obtain ⟨s, -, xs, hcame, hbetween⟩ := Calls.came h
  obtain ⟨t, hlower, hupper, hanswers⟩ := hbetween _ hcame.retired
  obtain ⟨id, hactive, hnone⟩ := (hb.deactivates hanswers).retires
  exact ⟨t, id, hlower, hupper, hactive, hnone⟩

end History

/-- No identifier is shared, and none is used again. -/
theorem ids_belong_to_one_pair :
    (∀ r, Register.ledger.Leads {} r →
      (r.active.map Prod.fst).Nodup ∧ (r.active.map Prod.snd).Nodup ∧ (∀ e ∈ r.active, e.2 ∈ r.issued) ∧
      (∀ r', Register.ledger.Leads r r' → r.issued ⊆ r'.issued) ∧
      ∀ e ∈ r.active, ∀ r', Register.ledger.Leads (r.deactivate e.1).2 r' → e.2 ∉ r'.active.map Prod.snd) ∧
    Register.ledger.Lawful ∧
    ∀ (σ : Type) (b : Ledger σ) (stores : Set Store) (H : History b stores), b.Lawful →
      (∀ s ∈ stores, s.fallback = none) → (b.holdings (H.moment 0).held).Sound →
        (∀ i j t₀ t₁ u₀ u₁ pair pair' id, H.Gets i t₀ t₁ pair id → H.Gets j u₀ u₁ pair' id → pair = pair') ∧
        ∀ i t₀ t₁ pair, H.Retires i t₀ t₁ pair → ∃ t id, t₀ < t ∧ t < t₁ ∧ H.active t pair = some id ∧
          H.active (t + 1) pair = none ∧ ∀ j u₀ u₁ pair', t₁ ≤ u₀ → ¬ H.Gets j u₀ u₁ pair' id := by
  refine ⟨fun r h => ⟨Register.leads_keys h, Register.leads_ids h, ?_, ?_, ?_⟩, Register.ledger_lawful, ?_⟩
  · rintro ⟨pair, id⟩ hmem
    exact (Register.leads_sound h).issued ((Register.mem_active_iff h).1 hmem)
  · intro r' hleads id hid
    exact (hleads.holdings Register.ledger_lawful).issued hid
  · rintro ⟨pair, id⟩ hmem r' hafter
    exact Register.leads_retired h hmem hafter
  · intro σ b stores H hb hfallback hsound
    constructor
    · intro i j t₀ t₁ u₀ u₁ pair pair' id h h'
      obtain ⟨t, -, -, hactive⟩ := History.Gets.active hb hfallback h
      obtain ⟨t', -, -, hactive'⟩ := History.Gets.active hb hfallback h'
      rcases Nat.le_total t t' with ht | ht
      · exact (History.active_unique hb hsound ht hactive hactive').symm
      · exact History.active_unique hb hsound ht hactive' hactive
    · intro i t₀ t₁ pair hretires
      obtain ⟨t, id, hlower, hupper, hactive, hnone⟩ := hretires.active hb
      refine ⟨t, id, hlower, hupper, hactive, hnone, fun j u₀ u₁ pair' hlater hgets => ?_⟩
      obtain ⟨t', hlower', -, hactive'⟩ := History.Gets.active hb hfallback hgets
      exact History.active_ne hb hsound (by omega) hactive hnone hactive'

/-! A retired identifier is drawn once more, for another pair, and is refused. -/

namespace Reuse

open Race (store told)

def alice : Pair := ⟨"https://sp.example.org", "alice"⟩

def bob : Pair := ⟨"https://sp.example.org", "bob"⟩

def spent : StoreError := ⟨.duplicate, "identifier already issued"⟩

def issued : Register := ⟨[(alice, "x")], ["x"]⟩

def retired : Register := ⟨[], ["x"]⟩

def reissued : Register := ⟨[(bob, "y")], ["y", "x"]⟩

def served : Caller := .getting alice (.done (.ok "x"))

def reported : Caller := .retiring alice (.done (.ok true))

def scene : Nat → Scene Register
  | 0 => ⟨{}, []⟩
  | 1 => ⟨{}, [told alice []]⟩
  | 2 => ⟨{}, [told alice [.found alice (.ok none)]]⟩
  | 3 => ⟨{}, [told alice [.found alice (.ok none), .drew "x"]]⟩
  | 4 => ⟨issued, [served]⟩
  | 5 => ⟨issued, [served, .retiring alice (store.deactivate alice)]⟩
  | 6 => ⟨retired, [served, reported]⟩
  | 7 => ⟨retired, [served, reported, told bob []]⟩
  | 8 => ⟨retired, [served, reported, told bob [.found bob (.ok none)]]⟩
  | 9 => ⟨retired, [served, reported, told bob [.found bob (.ok none), .drew "x"]]⟩
  | 10 => ⟨retired, [served, reported,
      told bob [.found bob (.ok none), .drew "x", .inserted bob "x" (.error spent)]]⟩
  | 11 => ⟨retired, [served, reported,
      told bob [.found bob (.ok none), .drew "x", .inserted bob "x" (.error spent), .found bob (.ok none)]]⟩
  | 12 => ⟨retired, [served, reported,
      told bob [.found bob (.ok none), .drew "x", .inserted bob "x" (.error spent), .found bob (.ok none), .drew "y"]]⟩
  | _ + 13 => ⟨reissued, [served, reported, .getting bob (.done (.ok "y"))]⟩

def history : History Register.ledger {store} where
  moment := scene
  first := rfl
  step
    | 0 => .starts rfl (.get alice)
    | 1 => .moves (i := 0) rfl (.getting (.find (.ok none))) ⟨rfl, rfl⟩
    | 2 => .moves (i := 0) rfl (.getting (.draw "x")) rfl
    | 3 => .moves (i := 0) rfl (.getting (.insert (.ok ()))) rfl
    | 4 => .starts rfl (.deactivate alice)
    | 5 => .moves (i := 1) rfl (.retiring (.deactivate (.ok true))) ⟨rfl, rfl⟩
    | 6 => .starts rfl (.get bob)
    | 7 => .moves (i := 2) rfl (.getting (.find (.ok none))) ⟨rfl, rfl⟩
    | 8 => .moves (i := 2) rfl (.getting (.draw "x")) rfl
    | 9 => .moves (i := 2) rfl (.getting (.insert (.error spent))) rfl
    | 10 => .moves (i := 2) rfl (.getting (.find (.ok none))) ⟨rfl, rfl⟩
    | 11 => .moves (i := 2) rfl (.getting (.draw "y")) rfl
    | 12 => .moves (i := 2) rfl (.getting (.insert (.ok ()))) rfl
    | _ + 13 => .rests

theorem ids_belong_to_one_pair_of_reuse :
    history.Gets 0 0 4 alice "x" ∧ history.Retires 1 4 6 alice ∧ history.Gets 2 6 13 bob "y" ∧
      (∀ id, history.Gets 2 6 13 bob id → id ≠ "x") ∧
      ∀ r, Register.ledger.Leads retired r → "x" ∉ r.active.map Prod.snd := by
  have hissued : Register.ledger.Leads {} issued := .single ⟨.inserted alice "x" (.ok ()), rfl⟩
  have hfallback : ∀ s ∈ ({store} : Set Store), s.fallback = none := by
    rintro s rfl
    rfl
  have hretires : history.Retires 1 4 6 alice := ⟨by decide, Nat.le_refl _, rfl⟩
  obtain ⟨hregister, hlawful, hhistory⟩ := ids_belong_to_one_pair
  obtain ⟨-, hlater⟩ := hhistory _ _ _ history hlawful hfallback Register.sound_empty
  obtain ⟨t, id, hlower, hupper, hactive, -, hnever⟩ := hlater 1 4 6 alice hretires
  obtain rfl : t = 5 := by omega
  obtain rfl : "x" = id := Option.some.inj hactive
  refine ⟨⟨by decide, Nat.le_refl _, rfl⟩, hretires, ⟨by decide, Nat.le_refl _, rfl⟩, ?_, ?_⟩
  · rintro id hgets rfl
    exact hnever 2 6 13 bob (Nat.le_refl _) hgets
  · exact (hregister issued hissued).2.2.2.2 (alice, "x") List.mem_cons_self

end Reuse

end AttributeRelease.Pairwise
