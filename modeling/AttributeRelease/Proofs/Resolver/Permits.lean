import AttributeRelease.Proofs.Resolver.Accounts
import AttributeRelease.Proofs.Resolver.Attendance

/-!
Permits for fetches are never lost. The accounts that every call keeps for itself are right for all calls together,
so there are always as many permits as the resolver has, and never more fetches at a time. As a call that has ended
evaluates nothing, it has no permit any longer.
-/

namespace AttributeRelease

namespace Resolver

variable {W : Type}

/-- The nodes of a call that fetch. -/
def Call.fetching (c : Call W) : List Party :=
  (c.cells.entries.filter fun e => e.2.stage.isFetching).map fun e => (c.number, e.1)

/-- The nodes of all calls that fetch. -/
def Sessions.fetching (s : Sessions W) : List Party := s.calls.flatMap Call.fetching

/-- Who has a permit: those who fetch, and those who have been given one to do so. -/
def Sessions.holders (s : Sessions W) : List Party := s.shared.permits.granted ++ s.fetching

theorem Call.mem_fetching {c : Call W} {p : Party} (sh : Shared W) :
    p ∈ c.fetching ↔ c.number = p.1 ∧ (Session.stage ⟨c, sh⟩ p.2).isFetching = true := by
  simp only [fetching, List.mem_map, List.mem_filter, Prod.exists]
  constructor
  · rintro ⟨id, cell, ⟨hmem, hfetching⟩, rfl⟩
    refine ⟨rfl, ?_⟩
    rw [Session.stage, Session.cell, Keyed.get?_eq_some_iff.2 hmem]
    exact hfetching
  · rintro ⟨hnumber, hfetching⟩
    have hstage : Session.stage ⟨c, sh⟩ p.2 ≠ .idle := by
      intro hidle
      rw [hidle] at hfetching
      cases hfetching
    obtain ⟨cell, hcell, hsame⟩ := Session.exists_cell hstage
    exact ⟨p.2, cell, ⟨Keyed.get?_eq_some_iff.1 hcell, hsame ▸ hfetching⟩, Prod.ext hnumber rfl⟩

theorem Call.nodup_fetching (c : Call W) : c.fetching.Nodup := by
  have hkeys : ((c.cells.entries.filter fun e => e.2.stage.isFetching).map Prod.fst).Nodup :=
    (List.filter_sublist.map Prod.fst).nodup c.cells.keys_nodup
  have hpair : c.fetching =
      ((c.cells.entries.filter fun e => e.2.stage.isFetching).map Prod.fst).map (Prod.mk c.number) := by
    rw [fetching, List.map_map]
    rfl
  rw [hpair]
  exact hkeys.map fun _ _ h => congrArg Prod.snd h

/-- The accounts are right for all calls together. -/
structure Permitted (r : Resolver W) (s : Sessions W) : Prop where
  accounts : Accounts r.permits s.shared
  fetching : ∀ p, p ∈ underWay s.shared.log ↔ p ∈ s.fetching
  waiting : ∀ p ∈ s.shared.permits.waiting, ∃ c ∈ s.calls, c.number = p.1 ∧
    (Session.stage ⟨c, s.shared⟩ p.2).isQueued = true

section

variable {r : Resolver W} {s s' : Sessions W} {c c' : Call W} {place : Nat} {u : Session W}

theorem Sound.call_eq (hs : Sound r s) (hc : c ∈ s.calls) (hc' : c' ∈ s.calls) (h : c.number = c'.number) :
    c = c' := by
  obtain ⟨i, hi⟩ := List.mem_iff_getElem?.1 hc
  obtain ⟨j, hj⟩ := List.mem_iff_getElem?.1 hc'
  obtain rfl := hs.numbers i j c c' hi hj h
  exact Option.some.inj (hi.symm.trans hj)

theorem Sound.mem_fetching (hs : Sound r s) (hc : c ∈ s.calls) (id : String) :
    (c.number, id) ∈ s.fetching ↔ (Session.stage ⟨c, s.shared⟩ id).isFetching = true := by
  rw [Sessions.fetching, List.mem_flatMap]
  constructor
  · rintro ⟨c', hc', hmem⟩
    obtain ⟨hnumber, hfetching⟩ := (Call.mem_fetching s.shared).1 hmem
    obtain rfl := hs.call_eq hc' hc hnumber
    exact hfetching
  · exact fun hfetching => ⟨c, hc, (Call.mem_fetching s.shared).2 ⟨rfl, hfetching⟩⟩

theorem Sound.nodup_fetching (hs : Sound r s) : s.fetching.Nodup := by
  rw [Sessions.fetching, List.nodup_flatMap]
  refine ⟨fun c _ => c.nodup_fetching, List.pairwise_iff_getElem.2 fun i j hi hj hlt => ?_⟩
  refine List.disjoint_left.2 fun p hp hp' => ?_
  obtain ⟨hnumber, -⟩ := (Call.mem_fetching s.shared).1 hp
  obtain ⟨hnumber', -⟩ := (Call.mem_fetching s.shared).1 hp'
  have heq := hs.numbers i j _ _ (List.getElem?_eq_getElem hi) (List.getElem?_eq_getElem hj)
    (hnumber.trans hnumber'.symm)
  omega

namespace Permitted

theorem balanced (h : Permitted r s) (hs : Sound r s) (hc : c ∈ s.calls) :
    Balanced r.permits s.shared ⟨c, s.shared⟩ where
  accounts := h.accounts
  fetching id := (h.fetching _).trans (hs.mem_fetching hc id)
  waiting id hmem := by
    obtain ⟨c', hc', hnumber, hqueued⟩ := h.waiting _ hmem
    obtain rfl := hs.call_eq hc' hc hnumber
    exact hqueued
  others _ _ := ⟨.rfl, fun hmem => hmem⟩

/-- A call has its turn, or is dropped. -/
theorem acts (h : Permitted r s) (hs' : Sound r ⟨s.calls.set place u.call, u.shared⟩)
    (hc : s.calls[place]? = some c) (hnumber : u.call.number = c.number) (hu : Balanced r.permits s.shared u) :
    Permitted r ⟨s.calls.set place u.call, u.shared⟩ := by
  have hmem : u.call ∈ s.calls.set place u.call := List.mem_set (List.getElem?_eq_some_iff.1 hc).1 _
  -- a call with another number is another call, and stays as it was
  have hothers : ∀ c', c'.number ≠ c.number → (c' ∈ s.calls.set place u.call ↔ c' ∈ s.calls) := by
    intro c' hne
    constructor
    · intro hc'
      rcases List.mem_or_eq_of_mem_set hc' with hold | rfl
      · exact hold
      · exact absurd hnumber hne
    · intro hc'
      obtain ⟨i, hi⟩ := List.mem_iff_getElem?.1 hc'
      refine List.mem_iff_getElem?.2 ⟨i, ?_⟩
      rw [List.getElem?_set_ne, hi]
      rintro rfl
      rw [hc] at hi
      exact hne (by rw [Option.some.inj hi])
  refine ⟨hu.accounts, fun p => ?_, fun p hp => ?_⟩
  · obtain ⟨number, id⟩ := p
    by_cases hown : number = u.call.number
    · rw [hown]
      exact (hu.fetching id).trans (hs'.mem_fetching hmem id).symm
    · rw [(hu.others _ hown).1, h.fetching]
      simp only [Sessions.fetching, List.mem_flatMap]
      refine exists_congr fun c' => and_congr_left fun hc' => (hothers c' fun heq => ?_).symm
      exact hown (((Call.mem_fetching s.shared).1 hc').1.symm.trans (heq.trans hnumber.symm))
  · obtain ⟨number, id⟩ := p
    by_cases hown : number = u.call.number
    · rw [hown] at hp ⊢
      exact ⟨u.call, hmem, rfl, hu.waiting id hp⟩
    · obtain ⟨c', hc', hnumber', hqueued⟩ := h.waiting _ ((hu.others _ hown).2 hp)
      have hne : c'.number ≠ c.number := fun heq => hown (hnumber'.symm.trans (heq.trans hnumber.symm))
      exact ⟨c', (hothers c' hne).2 hc', hnumber', hqueued⟩

theorem starts (h : Permitted r s) (hfresh : c.Fresh) : Permitted r { s with calls := s.calls ++ [c] } := by
  have hnone : c.fetching = [] := by
    rw [Call.fetching, hfresh.cells]
    rfl
  refine ⟨h.accounts, fun p => ?_, fun p hp => ?_⟩
  · rw [h.fetching, Sessions.fetching, Sessions.fetching, List.flatMap_append, List.flatMap_singleton, hnone,
      List.append_nil]
  · obtain ⟨c', hc', hqueued⟩ := h.waiting p hp
    exact ⟨c', List.mem_append_left _ hc', hqueued⟩

/-- **Every step keeps the accounts right.** -/
theorem step {passes : Call W → Nat → Prop} (h : Permitted r s) (hs : Sound r s) (hstep : Step r passes s s') :
    Permitted r s' := by
  have hacts : ∀ {place : Nat} {c : Call W} {u t : Session W} {b : Bool}, s.calls[place]? = some c →
      c.ending = none → Moves r.graph (Wide r.graph c) ⟨c, s.shared⟩ b t → Closes r b t u →
      Permitted r ⟨s.calls.set place u.call, u.shared⟩ := by
    intro place c u t b hc hending hmoves hcloses
    have hcoherent := hs.coherent place c hc hending
    have hbalanced := hmoves.balanced hcoherent (h.balanced hs (List.mem_of_getElem? hc))
    have hbeside := (hmoves.beside hcoherent).trans hcloses.beside
    exact h.acts (hs.closes hc hending hmoves hcloses) hc hbeside.number (hcloses.balanced hbalanced)
  cases hstep with
  | starts hfresh => exact h.starts hfresh
  | turns w place =>
    unfold turn
    cases hc : s.calls[place]? with
    | none => exact h
    | some c =>
      dsimp only
      split
      · exact h
      · next hopen =>
        have hending : c.ending = none := Option.not_isSome_iff_eq_none.1 hopen
        obtain ⟨b, t, hmoves, hcloses⟩ := goOn_closes r w (hs.coherent place c hc hending)
        exact hacts hc hending hmoves hcloses
  | drops hc hending => exact hacts hc hending .refl (drop_closes r _)
  | passes => exact ⟨h.accounts.of_room rfl rfl h.accounts.orderly rfl, h.fetching, h.waiting⟩

end Permitted

theorem Reachable.permitted {passes : Call W → Nat → Prop} (h : Reachable r passes s) : Permitted r s := by
  obtain ⟨world, hrun⟩ := h
  induction hrun with
  | refl =>
    have hlog : (r.shared world).log = [] := rfl
    have horderly : (r.shared world).permits.Orderly := ⟨List.nodup_nil, fun hne => absurd rfl hne⟩
    refine ⟨⟨rfl, horderly, rfl, rfl, Nat.zero_le _⟩, fun p => ?_, fun p hp => absurd hp List.not_mem_nil⟩
    rw [hlog]
    exact ⟨fun hp => absurd hp (Finset.notMem_empty p), fun hp => absurd hp List.not_mem_nil⟩
  | tail hbefore hstep ih => exact ih.step (Reachable.sound ⟨world, hbefore⟩) hstep

/-! ### Holders -/

namespace Permitted

theorem holder (h : Permitted r s) {p : Party} (hp : p ∈ s.holders) : ∃ c ∈ s.calls, c.number = p.1 ∧
    ((Session.stage ⟨c, s.shared⟩ p.2).isFetching = true ∨ (Session.stage ⟨c, s.shared⟩ p.2).isQueued = true) := by
  rcases List.mem_append.1 hp with hgranted | hfetching
  · obtain ⟨c, hc, hnumber, hqueued⟩ := h.waiting p (Gate.mem_waiting.2 (.inl hgranted))
    exact ⟨c, hc, hnumber, .inr hqueued⟩
  · obtain ⟨c, hc, hmem⟩ := List.mem_flatMap.1 hfetching
    obtain ⟨hnumber, hfetching⟩ := (Call.mem_fetching s.shared).1 hmem
    exact ⟨c, hc, hnumber, .inl hfetching⟩

theorem nodup_holders (h : Permitted r s) (hs : Sound r s) : s.holders.Nodup := by
  have hgranted : s.shared.permits.granted.Nodup := h.accounts.orderly.nodup.of_append_left
  refine hgranted.append hs.nodup_fetching (List.disjoint_left.2 fun p hp hfetching => ?_)
  obtain ⟨c, hc, hnumber, hqueued⟩ := h.waiting p (Gate.mem_waiting.2 (.inl hp))
  obtain ⟨number, id⟩ := p
  obtain rfl : c.number = number := hnumber
  have hstage := (hs.mem_fetching hc id).1 hfetching
  -- nobody fetches and waits to be let in at a time
  cases hcase : Session.stage ⟨c, s.shared⟩ id with
  | idle | settled =>
    rw [hcase] at hqueued
    cases hqueued
  | evaluated asker phase =>
    rw [hcase] at hqueued hstage
    cases phase with
    | queued => cases hstage
    | joining | fetching | recovering => cases hqueued

theorem total (h : Permitted r s) (hs : Sound r s) : s.holders.length + s.shared.permits.free = r.permits := by
  have hsame : underWay s.shared.log = s.fetching.toFinset := by
    ext p
    rw [h.fetching, List.mem_toFinset]
  have hroom := h.accounts.room
  rw [hsame, List.toFinset_card_of_nodup hs.nodup_fetching, Gate.room] at hroom
  rw [Sessions.holders, List.length_append]
  omega

end Permitted

end

/--
A node is at its own fetch: it fetches, or is to be let in to do so. It has all that it depends on, and asks for
nothing.
-/
structure AtFetch (g : Graph W) (s : Session W) (id : String) : Prop where
  stage : (s.stage id).isFetching = true ∨ (s.stage id).isQueued = true
  supplied : Supplied g s id
  asksNobody : ∀ place x, ¬ Asking g s ⟨some id, place⟩ x

theorem Stage.phase_of_isFetching {stage : Stage W} (h : stage.isFetching = true ∨ stage.isQueued = true) :
    ∃ asker phase, stage = .evaluated asker phase ∧ phase.isJoining = false ∧ ∀ e, phase ≠ .recovering e := by
  cases stage with
  | idle | settled => rcases h with h | h <;> cases h
  | evaluated asker phase =>
    cases phase with
    | queued | fetching => exact ⟨asker, _, rfl, rfl, nofun⟩
    | joining | recovering => rcases h with h | h <;> cases h

theorem Coherent.atFetch {g : Graph W} {wide : Prop} {s : Session W} (hs : Coherent g wide s) {id : String}
    (h : (s.stage id).isFetching = true ∨ (s.stage id).isQueued = true) : AtFetch g s id := by
  obtain ⟨asker, phase, hstage, hjoining, hrecovering⟩ := Stage.phase_of_isFetching h
  refine ⟨h, hs.supplied id asker phase hstage hjoining, fun place x hasking => ?_⟩
  obtain ⟨asker', phase', hstage', hkind⟩ := hasking.stage rfl
  rw [hstage] at hstage'
  cases hstage'
  rcases hkind with ⟨group, rfl⟩ | ⟨e, rfl⟩
  · cases hjoining
  · exact hrecovering e rfl

/-- What becomes of the permits of a resolver. -/
structure KeepsPermits (r : Resolver W) (s : Sessions W) : Prop where
  /-- Those that are held and those that are free are as many as there were. -/
  total : s.holders.length + s.shared.permits.free = max 1 r.maxFetches
  /-- Nobody holds two. -/
  own : s.holders.Nodup
  /-- The fetches that have begun and not ended are those of the holders that fetch. -/
  underWay : ∀ p, p ∈ underWay s.shared.log ↔ p ∈ s.fetching
  /-- There were never more fetches at a time. -/
  most : mostInFlight 0 s.shared.log.reverse ≤ max 1 r.maxFetches
  inFlight : ∀ p ∈ s.holders, ∃ c ∈ s.calls, c.number = p.1 ∧ c.ending = none
  atFetch : ∀ c ∈ s.calls, ∀ id, (c.number, id) ∈ s.holders → AtFetch r.graph ⟨c, s.shared⟩ id
  free : (∀ c ∈ s.calls, c.ending ≠ none) → s.shared.permits.free = max 1 r.maxFetches

/--
**Permits are never lost.** Whatever calls do, and in whatever order, permits that are held and permits that are
free add up; fetches hold one each, and nobody else does but those who were given one to fetch; and all are free
when no call is in flight.
-/
theorem Reachable.keepsPermits {r : Resolver W} {passes : Call W → Nat → Prop} {s : Sessions W}
    (h : Reachable r passes s) : KeepsPermits r s := by
  have hs := h.sound
  have hpermitted := h.permitted
  -- a node at its fetch is evaluated, which it is only until its call has ended
  have hflight : ∀ c ∈ s.calls, ∀ id, (Session.stage ⟨c, s.shared⟩ id).isFetching = true ∨
      (Session.stage ⟨c, s.shared⟩ id).isQueued = true → c.ending = none := by
    intro c hc id hstage
    obtain ⟨asker, phase, hstage, -⟩ := Stage.phase_of_isFetching hstage
    by_contra hending
    exact (h.attends c hc).after hending id asker phase hstage
  have hinFlight : ∀ p ∈ s.holders, ∃ c ∈ s.calls, c.number = p.1 ∧ c.ending = none := by
    intro p hp
    obtain ⟨c, hc, hnumber, hstage⟩ := hpermitted.holder hp
    exact ⟨c, hc, hnumber, hflight c hc p.2 hstage⟩
  refine ⟨hpermitted.total hs, hpermitted.nodup_holders hs, hpermitted.fetching, hpermitted.accounts.most,
    hinFlight, fun c hc id hmem => ?_, fun hended => ?_⟩
  · obtain ⟨c', hc', hnumber, hstage⟩ := hpermitted.holder hmem
    obtain rfl := hs.call_eq hc' hc hnumber
    obtain ⟨i, hi⟩ := List.mem_iff_getElem?.1 hc'
    exact (hs.coherent i c' hi (hflight c' hc' id hstage)).atFetch hstage
  · have hnobody : s.holders = [] := by
      refine List.eq_nil_iff_forall_not_mem.2 fun p hp => ?_
      obtain ⟨c, hc, -, hopen⟩ := hinFlight p hp
      exact hended c hc hopen
    have htotal := hpermitted.total hs
    rw [hnobody, List.length_nil, Nat.zero_add] at htotal
    exact htotal

namespace Contended

/-- There is one permit even if none is asked for. -/
def resolver : Resolver Unit := { Sample.resolver with maxFetches := 0 }

/-- The first call asks the directory, and the second one waits to be let in. -/
def waiting : Sessions Unit := Sample.begun resolver [Sample.call 0, Sample.call 1]

/-- The first call as it is then. -/
def first : Call Unit := waiting.calls.headD (Sample.call 0)

/-- The first call is dropped while the directory is asked. -/
def dropped : Sessions Unit :=
  ⟨waiting.calls.set 0 (drop resolver ⟨first, waiting.shared⟩).call, (drop resolver ⟨first, waiting.shared⟩).shared⟩

theorem reachable_waiting (passes : Call Unit → Nat → Prop) : Reachable resolver passes waiting :=
  Sample.reachable_begun resolver passes
    (List.forall_mem_cons.2 ⟨⟨rfl, rfl, rfl⟩, List.forall_mem_singleton.2 ⟨rfl, rfl, rfl⟩⟩) (by decide)

theorem reachable_dropped (passes : Call Unit → Nat → Prop) : Reachable resolver passes dropped :=
  (reachable_waiting passes).step (.drops (c := first) rfl rfl)

/-- The permit of the call that is dropped goes to the other one. -/
theorem keepsPermits_of_dropped : Reachable resolver (fun _ _ => True) dropped ∧ KeepsPermits resolver dropped ∧
    waiting.holders = [(0, "directory")] ∧ dropped.holders = [(1, "directory")] := by
  have hreachable := reachable_dropped fun _ _ => True
  refine ⟨hreachable, Reachable.keepsPermits hreachable, ?_, ?_⟩
  · decide +kernel
  · decide +kernel

end Contended

end Resolver

end AttributeRelease
