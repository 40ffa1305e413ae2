import AttributeRelease.Proofs.Pairwise.Outages

/-!
Why a store made from settings may answer for its backend. It computes the identifier it inserts and the one it
falls back on in the same way, so as long as nothing is retired there is one identifier for each pair, and a
refusal can only mean that the pair has it already. Then nothing is ever drawn, and whatever got lost on the way
to the backend or back, all answers are the computed ones.
-/

namespace AttributeRelease.Pairwise

open Config (PairwiseSettings)

/-- A dialogue about one pair that knows one identifier for it: it inserts that one, gives out that one, and neither
draws nor retires any. `held` says that the pair is known to have it; then it will not be told otherwise. -/
inductive Sticks (pair : Pair) (id : String) : (held : Bool) → Dialogue (Except StoreError String) → Prop
  | gives (held : Bool) : Sticks pair id held (.done (.ok id))
  | fails (held : Bool) (e : StoreError) : Sticks pair id held (.done (.error e))
  | finds {held : Bool} {next : Except StoreError (Option String) → Dialogue (Except StoreError String)}
    (herror : ∀ e, Sticks pair id held (next (.error e))) (hsome : Sticks pair id true (next (.ok (some id))))
    (hnone : held = false → Sticks pair id false (next (.ok none))) : Sticks pair id held (.find pair next)
  | inserts {held : Bool} {next : Except StoreError Unit → Dialogue (Except StoreError String)}
    (hok : Sticks pair id true (next (.ok ())))
    (herror : ∀ e, Sticks pair id (held || decide (e.kind = .duplicate)) (next (.error e))) :
    Sticks pair id held (.insert pair id next)
  | tosses {held : Bool} {next : Float → Dialogue (Except StoreError String)}
    (h : ∀ chance, Sticks pair id held (next chance)) : Sticks pair id held (.toss next)
  | sleeps {held : Bool} {ms : Nat} {next : Dialogue (Except StoreError String)} (h : Sticks pair id held next) :
    Sticks pair id held (.sleep ms next)

namespace Sticks

variable {pair : Pair} {id : String} {held : Bool} {d d' : Dialogue (Except StoreError String)}

theorem weaken (h : Sticks pair id held d) : Sticks pair id true d := by
  induction h with
  | gives => exact .gives true
  | fails _ e => exact .fails true e
  | finds _ hsome _ iherror _ _ => exact .finds iherror hsome nofun
  | inserts hok _ _ iherror => exact .inserts hok fun e => by simpa using iherror e
  | tosses _ ih => exact .tosses ih
  | sleeps _ ih => exact .sleeps ih

theorem of_false (h : Sticks pair id false d) (held : Bool) : Sticks pair id held d := by
  cases held with
  | false => exact h
  | true => exact h.weaken

theorem bind (h : Sticks pair id held d) {k : Except StoreError String → Dialogue (Except StoreError String)}
    (hok : Sticks pair id false (k (.ok id))) (herror : ∀ e, Sticks pair id false (k (.error e))) :
    Sticks pair id held (d.bind k) := by
  induction h with
  | gives held => exact hok.of_false held
  | fails held e => exact (herror e).of_false held
  | finds _ _ _ iherror ihsome ihnone => exact .finds iherror ihsome ihnone
  | inserts _ _ ihok iherror => exact .inserts ihok iherror
  | tosses _ ih => exact .tosses ih
  | sleeps _ ih => exact .sleeps ih

/-- One who is refused because the identifier is taken finds it at his pair, so no second candidate is tried. -/
theorem allocate (tries : Nat) : Sticks pair id false (Store.allocate pair (.done id) tries) := by
  cases tries with
  | zero => exact .fails _ _
  | succ tries =>
    rw [Store.allocate]
    refine .inserts (.gives _) fun e => ?_
    by_cases hkind : e.kind = .duplicate
    · simp only [hkind, if_true, decide_true, Bool.or_true]
      exact .finds (fun e => .fails _ e) (.gives _) fun hsame => absurd hsame (by decide)
    · simp only [hkind, if_false]
      exact .fails _ e

theorem getOnce {s : Store} {g : Generator} (hinitial : s.initial = .computed g) :
    Sticks pair (g.generate pair) false (s.getOnce pair) := by
  rw [Store.getOnce, hinitial]
  exact .finds (fun e => .fails _ e) (.gives _) fun _ => allocate Store.maxCandidates

theorem pause (p : RetryPolicy) (h : Sticks pair id held d) (earlier : Nat) :
    Sticks pair id held (p.pause earlier d) := by
  rw [RetryPolicy.pause]
  split
  · exact .tosses fun _ => .sleeps h
  · exact .sleeps h

theorem retryFrom (p : RetryPolicy) (h : Sticks pair id false d) (earlier more : Nat) :
    Sticks pair id false (p.retryFrom d earlier more) := by
  induction more generalizing earlier with
  | zero => exact h
  | succ more ih =>
    rw [RetryPolicy.retryFrom]
    refine h.bind (.gives _) fun e => ?_
    by_cases hpass : p.isRetryable e
    · simp only [hpass, if_true]
      exact (ih _).pause p earlier
    · simp only [hpass]
      exact .fails _ e

/-- What is computed for want of an answer is what would have been inserted. -/
theorem get {settings : PairwiseSettings} {g : Generator} (hg : Generator.ofSettings settings = .ok g) {s : Store}
    (hs : Store.ofSettings settings = .ok s) : Sticks pair (g.generate pair) false (s.get pair) := by
  obtain ⟨g', hg', rfl⟩ := Store.ofSettings_eq_ok hs
  rw [hg] at hg'
  cases hg'
  refine ((getOnce rfl).retryFrom _ _ _).bind (.gives _) fun e => ?_
  cases hpass : (RetryPolicy.ofSettings settings).isRetryable e with
  | false =>
    simp only [hpass]
    exact .fails _ e
  | true =>
    cases settings.fallsBack with
    | false =>
      simp only [hpass, Bool.false_eq_true, if_false]
      exact .fails _ e
    | true =>
      simp only [hpass, if_true]
      exact .gives _

/-- One exchange with a backend at which the pair has this identifier or none, and nobody else has it. -/
theorem step {σ : Type} {b : Ledger σ} (hb : b.Lawful) (hcandid : b.Candid) {s s' : σ} {x : Exchange}
    (h : Sticks pair id held d) (hstep : d.Step x d') (hanswers : b.Answers s x s')
    (hheld : held = true → (b.holdings s).active pair = some id)
    (hactive : ∀ other, (b.holdings s).active pair = some other → other = id)
    (hissued : (b.holdings s).issued id → (b.holdings s).active pair = some id) :
    (b.holdings s' = b.holdings s ∨ (b.holdings s).Admits pair id ∧ b.holdings s' = (b.holdings s).issue pair id) ∧
      ∃ held', Sticks pair id held' d' ∧ (held' = true → (b.holdings s').active pair = some id) := by
  cases h with
  | gives => cases hstep
  | fails => cases hstep
  | finds herror hsome hnone =>
    cases hstep with
    | find answer =>
      have hkeeps := hb.find_keeps hanswers
      rw [hkeeps]
      refine ⟨.inl rfl, ?_⟩
      rcases answer with e | _ | other
      · exact ⟨held, herror e, hheld⟩
      · cases held with
        | false => exact ⟨false, hnone rfl, nofun⟩
        | true =>
          have hfound := hb.find_active hanswers
          rw [hheld rfl] at hfound
          cases hfound
      · have hfound := (hb.find_active hanswers).symm
        cases hactive other hfound
        exact ⟨true, hsome, fun _ => hfound⟩
  | inserts hok herror =>
    cases hstep with
    | insert answer =>
      have hinserts := hb.inserts hanswers
      have hrefused := hcandid s pair id
      generalize hafter : b.holdings s' = after at hinserts ⊢
      cases hinserts with
      | stored hadmits => exact ⟨.inr ⟨hadmits, rfl⟩, true, hok, fun _ => Holdings.active_issue_self⟩
      | lost e _ hadmits => exact ⟨.inr ⟨hadmits, rfl⟩, _, herror e, fun _ => Holdings.active_issue_self⟩
      | refused e =>
        refine ⟨.inl rfl, _, herror e, fun hknown => ?_⟩
        rw [Bool.or_eq_true, decide_eq_true_eq] at hknown
        rcases hknown with hknown | hkind
        · exact hheld hknown
        -- a real violation: the pair has an identifier, or this one was issued
        · by_contra hnot
          refine hrefused e s' hanswers hkind ⟨?_, fun hid => hnot (hissued hid)⟩
          rw [Option.eq_none_iff_forall_ne_some]
          intro other hother
          cases hactive other hother
          exact hnot hother
  | tosses h =>
    cases hstep with
    | toss chance =>
      cases hanswers
      exact ⟨.inl rfl, held, h chance, hheld⟩
  | sleeps h =>
    cases hstep with
    | sleep =>
      cases hanswers
      exact ⟨.inl rfl, held, h, hheld⟩

end Sticks

/-! ### What is held -/

/-- All that is held is computed, for pairs that were asked about, and nothing was retired. -/
structure Holdings.ComputedBy (g : Generator) (asked : Pair → Prop) (h : Holdings) : Prop where
  active {pair : Pair} {id : String} (hactive : h.active pair = some id) : id = g.generate pair
  issued {id : String} (hissued : h.issued id) : ∃ pair, asked pair ∧ id = g.generate pair ∧ h.active pair = some id

theorem Holdings.ComputedBy.issue {g : Generator} {asked : Pair → Prop} {h : Holdings} (hh : h.ComputedBy g asked)
    {pair : Pair} (hasked : asked pair) (hadmits : h.Admits pair (g.generate pair)) :
    (h.issue pair (g.generate pair)).ComputedBy g asked where
  active {pair' id} hactive := by
    by_cases hpair : pair' = pair
    · subst hpair
      rw [active_issue_self] at hactive
      exact (Option.some.inj hactive).symm
    · rw [active_issue_of_ne hpair] at hactive
      exact hh.active hactive
  issued {id} hissued := by
    rcases hissued with rfl | hissued
    · exact ⟨pair, hasked, rfl, active_issue_self⟩
    · obtain ⟨pair', hasked', hid, hactive⟩ := hh.issued hissued
      have hpair : pair' ≠ pair := by
        rintro rfl
        rw [hadmits.1] at hactive
        cases hactive
      exact ⟨pair', hasked', hid, (active_issue_of_ne hpair).trans hactive⟩

variable {σ : Type} {b : Ledger σ} {stores : Set Store}

/-- Whoever was refused once is right in that his pair has its identifier. -/
structure Scene.Agrees (b : Ledger σ) (g : Generator) (asked : Pair → Prop) (c : Scene σ) : Prop where
  held : (b.holdings c.held).ComputedBy g asked
  callers {i : Nat} {caller : Caller} (hi : c.callers[i]? = some caller) :
    ∃ pair d held, caller = .getting pair d ∧ asked pair ∧ Sticks pair (g.generate pair) held d ∧
      (held = true → (b.holdings c.held).active pair = some (g.generate pair))

namespace Scene.Agrees

variable {g : Generator} {asked : Pair → Prop} {c c' : Scene σ}

theorem moves (hb : b.Lawful) (hcandid : b.Candid)
    (hinjective : ∀ pair pair', asked pair → asked pair' → g.generate pair = g.generate pair' → pair = pair')
    (h : c.Agrees b g asked) {i : Nat} {caller caller' : Caller} {x : Exchange} {s' : σ}
    (hi : c.callers[i]? = some caller) (hmoves : caller.Moves x caller') (hanswers : b.Answers c.held x s') :
    ∃ pair d' held', caller' = .getting pair d' ∧ asked pair ∧ Sticks pair (g.generate pair) held' d' ∧
      (held' = true → (b.holdings s').active pair = some (g.generate pair)) ∧
      (b.holdings s' = b.holdings c.held ∨ (b.holdings c.held).Admits pair (g.generate pair) ∧
        b.holdings s' = (b.holdings c.held).issue pair (g.generate pair)) := by
  obtain ⟨pair, d, held, rfl, hasked, hsticks, hheld⟩ := h.callers hi
  cases hmoves with
  | getting hstep =>
    obtain ⟨hafter, held', hsticks', hheld'⟩ := hsticks.step hb hcandid hstep hanswers hheld
      (fun other hother => h.held.active hother) fun hissued => by
        obtain ⟨pair', hasked', hid, hactive⟩ := h.held.issued hissued
        cases hinjective pair pair' hasked hasked' hid
        exact hactive
    exact ⟨pair, _, held', rfl, hasked, hsticks', hheld', hafter⟩

theorem step {settings : PairwiseSettings} (hg : Generator.ofSettings settings = .ok g)
    (hstores : ∀ s ∈ stores, ∃ fallsBack, Store.ofSettings { settings with fallsBack } = .ok s) (hb : b.Lawful)
    (hcandid : b.Candid)
    (hinjective : ∀ pair pair', asked pair → asked pair' → g.generate pair = g.generate pair' → pair = pair')
    (h : c.Agrees b g asked) (hstep : c.Step b stores c')
    (honly : ∀ caller ∈ c'.callers, ∃ pair d, caller = .getting pair d ∧ asked pair) : c'.Agrees b g asked := by
  have hafter : (b.holdings c'.held).ComputedBy g asked ∧ ∀ pair id, (b.holdings c.held).active pair = some id →
      (b.holdings c'.held).active pair = some id := by
    cases hstep with
    | rests => exact ⟨h.held, fun _ _ hactive => hactive⟩
    | starts => exact ⟨h.held, fun _ _ hactive => hactive⟩
    | moves hi hmoves hanswers =>
      obtain ⟨pair, -, -, -, hasked, -, -, hsame | ⟨hadmits, hissue⟩⟩ :=
        h.moves hb hcandid hinjective hi hmoves hanswers
      · rw [hsame]
        exact ⟨h.held, fun _ _ hactive => hactive⟩
      · rw [hissue]
        refine ⟨h.held.issue hasked hadmits, fun pair' id hactive => ?_⟩
        have hpair : pair' ≠ pair := by
          rintro rfl
          rw [hadmits.1] at hactive
          cases hactive
        exact (Holdings.active_issue_of_ne hpair).trans hactive
  refine ⟨hafter.1, fun {i caller} hi => ?_⟩
  rcases hstep.caller hi with hstays | ⟨-, s, hs, hstarts⟩ | ⟨earlier, x, hearlier, hmoves, hanswers⟩
  · obtain ⟨pair, d, held, hcaller, hasked, hsticks, hheld⟩ := h.callers hstays
    exact ⟨pair, d, held, hcaller, hasked, hsticks, fun hknown => hafter.2 _ _ (hheld hknown)⟩
  · obtain ⟨pair, d, rfl, hasked⟩ := honly caller (List.mem_of_getElem? hi)
    obtain ⟨fallsBack, hsettings⟩ := hstores s hs
    have hsame : Generator.ofSettings { settings with fallsBack } = .ok g := hg
    cases hstarts with
    | get => exact ⟨pair, _, false, rfl, hasked, .get hsame hsettings, nofun⟩
  · obtain ⟨pair, d', held', hcaller, hasked, hsticks, hheld, -⟩ :=
      h.moves hb hcandid hinjective hearlier hmoves hanswers
    exact ⟨pair, d', held', hcaller, hasked, hsticks, hheld⟩

end Scene.Agrees

namespace History

/-- Somebody asks for the identifier of a pair at some time. -/
def Asked (H : History b stores) (pair : Pair) : Prop := ∃ t d, .getting pair d ∈ (H.moment t).callers

/-- Nobody asks for a retirement. -/
def RetiresNone (H : History b stores) : Prop := ∀ t pair d, .retiring pair d ∉ (H.moment t).callers

theorem agrees {H : History b stores} {settings : PairwiseSettings} {g : Generator}
    (hg : Generator.ofSettings settings = .ok g)
    (hstores : ∀ s ∈ stores, ∃ fallsBack, Store.ofSettings { settings with fallsBack } = .ok s) (hb : b.Lawful)
    (hcandid : b.Candid) (hactive : ∀ pair, (b.holdings (H.moment 0).held).active pair = none)
    (hissued : ∀ id, ¬ (b.holdings (H.moment 0).held).issued id) (hnone : H.RetiresNone)
    (hinjective : ∀ pair pair', H.Asked pair → H.Asked pair' → g.generate pair = g.generate pair' → pair = pair')
    (t : Nat) : (H.moment t).Agrees b g H.Asked := by
  induction t with
  | zero =>
    refine ⟨⟨fun {pair id} h => ?_, fun {id} h => absurd h (hissued id)⟩, fun {i caller} hi => ?_⟩
    · rw [hactive pair] at h
      cases h
    · rw [H.first] at hi
      cases hi
  | succ t ih =>
    refine ih.step hg hstores hb hcandid hinjective (H.step t) fun caller hcaller => ?_
    cases caller with
    | getting pair d => exact ⟨pair, d, rfl, t + 1, d, hcaller⟩
    | retiring pair d => exact absurd hcaller (hnone (t + 1) pair d)

end History

/-- **The fallback agrees with the backend.** Stores of the same settings, some with a fallback and some without,
share a backend that was empty at first and is used by nobody else, and nothing is retired. If different pairs have
different computed identifiers, every answer is the computed one, whoever answers. Nothing else is ever issued, and
nobody comes to draw an identifier. -/
theorem answers_are_computed {settings : PairwiseSettings} {g : Generator}
    (hg : Generator.ofSettings settings = .ok g)
    (hstores : ∀ s ∈ stores, ∃ fallsBack, Store.ofSettings { settings with fallsBack } = .ok s) (hb : b.Lawful)
    (hcandid : b.Candid) (H : History b stores)
    (hactive : ∀ pair, (b.holdings (H.moment 0).held).active pair = none)
    (hissued : ∀ id, ¬ (b.holdings (H.moment 0).held).issued id) (hnone : H.RetiresNone)
    (hinjective : ∀ pair pair', H.Asked pair → H.Asked pair' → g.generate pair = g.generate pair' → pair = pair') :
    (∀ i t₀ t₁ pair id, H.Gets i t₀ t₁ pair id → id = g.generate pair) ∧
      (∀ t id, (b.holdings (H.moment t).held).issued id → ∃ pair, H.Asked pair ∧ id = g.generate pair) ∧
      ∀ t pair next, .getting pair (.draw next) ∉ (H.moment t).callers := by
  have hagrees := History.agrees hg hstores hb hcandid hactive hissued hnone hinjective
  refine ⟨fun i t₀ t₁ pair id hgets => ?_, fun t id hid => ?_, fun t pair next hcaller => ?_⟩
  · obtain ⟨pair', d, held, hcaller, -, hsticks, -⟩ := (hagrees t₁).callers hgets.after
    cases hcaller
    cases hsticks
    rfl
  · obtain ⟨pair, hasked, hid, -⟩ := (hagrees t).held.issued hid
    exact ⟨pair, hasked, hid⟩
  · obtain ⟨i, hi⟩ := List.mem_iff_getElem?.1 hcaller
    obtain ⟨pair', d, held, hgetting, -, hsticks, -⟩ := (hagrees t).callers hi
    cases hgetting
    cases hsticks

/-! The answer to an insertion is lost and the fallback serves, then the entry is found, then nothing is heard of the
backend at all. -/

namespace Degraded

open Outage

def scene : Nat → Scene Register
  | 0 => ⟨{}, []⟩
  | 1 => ⟨{}, [told true alice []]⟩
  | 2 => ⟨{}, [told true alice [.found alice (.ok none)]]⟩
  | 3 => ⟨issued, [served alice]⟩
  | 4 => ⟨issued, [served alice, told false alice []]⟩
  | 5 => ⟨issued, [served alice, served alice]⟩
  | 6 => ⟨issued, [served alice, served alice, told true bob []]⟩
  | _ + 7 => ⟨issued, [served alice, served alice, served bob]⟩

def history : History Register.unreliable {s | ∃ fallsBack, store fallsBack = s} where
  moment := scene
  first := rfl
  step
    | 0 => .starts ⟨true, rfl⟩ (.get alice)
    | 1 => .moves (i := 0) rfl (.getting (.find (.ok none))) (.inl ⟨rfl, rfl⟩)
    | 2 => .moves (i := 0) rfl (.getting (.insert (.error away))) (.inr ⟨away, by decide, rfl, .inr rfl⟩)
    | 3 => .starts ⟨false, rfl⟩ (.get alice)
    | 4 => .moves (i := 1) rfl (.getting (.find (.ok (some (generator.generate alice))))) (.inl ⟨rfl, rfl⟩)
    | 5 => .starts ⟨true, rfl⟩ (.get bob)
    | 6 => .moves (i := 2) rfl (.getting (.find (.error away))) (.inr ⟨away, rfl, rfl⟩)
    | _ + 7 => .rests

theorem callers {t : Nat} {caller : Caller} (h : caller ∈ (history.moment t).callers) :
    ∃ pair d, caller = .getting pair d ∧ (pair = alice ∨ pair = bob) := by
  match t with
  | 0 => simp [history, scene] at h
  | 1 | 2 | 3 | 4 | 5 | 6 | _ + 7 =>
    simp only [history, scene, told, served, List.mem_cons, List.not_mem_nil, or_false] at h
    rcases h with rfl | rfl | rfl <;> exact ⟨_, _, rfl, by decide⟩

theorem answers_are_computed_of_degraded :
    history.Gets 0 0 3 alice (generator.generate alice) ∧ history.Gets 1 3 5 alice (generator.generate alice) ∧
      history.Gets 2 5 7 bob (generator.generate bob) ∧
      (∀ i t₀ t₁ pair id, history.Gets i t₀ t₁ pair id → id = generator.generate pair) ∧
      ∀ t id, id ∈ (history.moment t).held.issued → ∃ pair, history.Asked pair ∧ id = generator.generate pair := by
  have hdiffer : generator.generate alice ≠ generator.generate bob := by decide +kernel
  have hasked : ∀ pair, history.Asked pair → pair = alice ∨ pair = bob := by
    rintro pair ⟨t, d, hd⟩
    obtain ⟨pair', d', hcaller, hpair⟩ := callers hd
    cases hcaller
    exact hpair
  have hinjective : ∀ pair pair', history.Asked pair → history.Asked pair' →
      generator.generate pair = generator.generate pair' → pair = pair' := by
    intro pair pair' h h' heq
    rcases hasked pair h with rfl | rfl <;> rcases hasked pair' h' with rfl | rfl
    · rfl
    · exact absurd heq hdiffer
    · exact absurd heq.symm hdiffer
    · rfl
  have hstores : ∀ s ∈ {s | ∃ fallsBack, store fallsBack = s}, ∃ fallsBack,
      Store.ofSettings { settings with fallsBack } = .ok s := by
    rintro s ⟨fallsBack, rfl⟩
    exact ⟨fallsBack, rfl⟩
  have hnone : history.RetiresNone := by
    intro t pair d hd
    obtain ⟨pair', d', hcaller, -⟩ := callers hd
    cases hcaller
  have hg : Generator.ofSettings settings = .ok generator := rfl
  obtain ⟨hgets, hissued, -⟩ := answers_are_computed hg hstores Register.unreliable_lawful
    Register.unreliable_candid history (fun _ => rfl) (fun _ => nofun) hnone hinjective
  exact ⟨⟨by decide, by decide, rfl⟩, ⟨by decide, by decide, rfl⟩, ⟨by decide, by decide, rfl⟩, hgets, hissued⟩

end Degraded

end AttributeRelease.Pairwise
