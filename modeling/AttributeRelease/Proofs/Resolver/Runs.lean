import AttributeRelease.Proofs.Resolver.Turns
import Mathlib.Logic.Relation

/-!
Runs of a resolver. Calls are started at any time, are given turns in any order, end by themselves or are
dropped, and in between the clock moves on and the world changes. Which moves of the clock there are is a
parameter. What holds of a call when it starts, and is kept by its own turns and by whatever happens
elsewhere, holds of every call in every state that can be reached.
-/

namespace AttributeRelease

namespace Resolver

variable {W : Type}

/-- Nothing has happened to the call yet. -/
structure Call.Fresh (c : Call W) : Prop where
  begun : c.begun = none
  cells : c.cells = .empty
  ending : c.ending = none

/-- The caller drops the call. -/
def drop (r : Resolver W) (s : Session W) : Session W :=
  match s.call.begun with
  | none => finish .abandoned s
  | some (roots, _) => finish .abandoned (r.breakOff ((r.graph.roots s.call.requested).map Node.id) roots s)

/-- What may happen to what calls share while a call has no turn. -/
structure Elsewhere (c : Call W) (sh sh' : Shared W) : Prop where
  clock : sh.scheduler.clock ≤ sh'.scheduler.clock
  unused : sh.scheduler.unused ≤ sh'.scheduler.unused
  register : c.ending = none → ∀ holder n, Session.Owns ⟨c, sh⟩ holder n →
    sh'.scheduler.register n = sh.scheduler.register n
  log : ∃ es, sh'.log = es ++ sh.log ∧ ∀ e ∈ es, e.call ≠ c.number
  closed : sh'.permits.closed = sh.permits.closed

/-- A step of the calls of a resolver. The clock moves to a time only if all calls under way let it pass. -/
inductive Step (r : Resolver W) (passes : Call W → Nat → Prop) : Sessions W → Sessions W → Prop
  | starts {s : Sessions W} {c : Call W} (hfresh : c.Fresh) (hnumber : ∀ c' ∈ s.calls, c'.number ≠ c.number) :
    Step r passes s { s with calls := s.calls ++ [c] }
  | turns {s : Sessions W} (w : Waker) (place : Nat) : Step r passes s (r.turn w place s).2
  | drops {s : Sessions W} {place : Nat} {c : Call W} (hc : s.calls[place]? = some c) (hending : c.ending = none) :
    Step r passes s ⟨s.calls.set place (r.drop ⟨c, s.shared⟩).call, (r.drop ⟨c, s.shared⟩).shared⟩
  | passes {s : Sessions W} {world : W} {k : Scheduler}
    (helsewhere : ∀ c ∈ s.calls, Elsewhere c s.shared { s.shared with world, scheduler := k })
    (hpasses : ∀ c ∈ s.calls, c.ending = none → k.clock = s.shared.scheduler.clock ∨ passes c k.clock) :
    Step r passes s { s with shared := { s.shared with world, scheduler := k } }

/-- The states that calls of a resolver can come to. -/
def Reachable (r : Resolver W) (passes : Call W → Nat → Prop) (s : Sessions W) : Prop :=
  ∃ world, Relation.ReflTransGen (Step r passes) ⟨[], r.shared world⟩ s

/-! ### Calls beside one another -/

/-- Whether anything asks for so much at a time that it is a crowd. -/
def Wide (g : Graph W) (c : Call W) : Prop := ∃ holder, Group.maxInOrder < (wanted g c holder).length

theorem Wide.congr {g : Graph W} {c c' : Call W} (h : wanted g c' = wanted g c) : Wide g c' = Wide g c := by
  rw [Wide, Wide, h]

section

variable {c : Call W} (h : c.Fresh) (sh : Shared W)

include h

theorem Call.Fresh.cell (id : String) : Session.cell ⟨c, sh⟩ id = {} := by
  rw [Session.cell, h.cells]
  rfl

theorem Call.Fresh.stage (id : String) : Session.stage ⟨c, sh⟩ id = .idle := by
  rw [Session.stage, h.cell]

theorem Call.Fresh.group? (holder : Option String) : Session.group? ⟨c, sh⟩ holder = none := by
  cases holder with
  | none => rw [Session.group?, h.begun, Option.map_none]
  | some id => rw [Session.group?, h.stage]

theorem Call.Fresh.not_owns (holder : Option String) (n : Nat) : ¬ Session.Owns ⟨c, sh⟩ holder n := by
  rintro ⟨size, hg⟩
  rw [h.group?] at hg
  cases hg

end

theorem Call.Fresh.coherent {g : Graph W} {c : Call W} (h : c.Fresh) {sh : Shared W}
    (hopened : sh.permits.closed = false) : Coherent g (Wide g c) ⟨c, sh⟩ := by
  have howns := h.not_owns sh
  refine ⟨fun holder hlt => ⟨holder, hlt⟩, hopened, fun id => ?_, fun holder group hg => ?_,
    fun holder n h => absurd h (howns holder n), fun holder n h => absurd h (howns holder n),
    fun holder n _ h => absurd h (howns holder n), fun holder n h => absurd h (howns holder n),
    fun holder _ n h => absurd h (howns holder n), fun id asker phase hstage => ?_⟩
  · rw [h.cell]
    exact Cell.fits_default
  · rw [h.group?] at hg
    cases hg
  · rw [h.stage] at hstage
    cases hstage

theorem Coherent.elsewhere {g : Graph W} {wide : Prop} {c : Call W} {sh sh' : Shared W}
    (hc : Coherent g wide ⟨c, sh⟩) (hending : c.ending = none) (h : Elsewhere c sh sh') :
    Coherent g wide ⟨c, sh'⟩ :=
  hc.mono h.closed hc.fits rfl (fun _ _ h => h) (fun _ _ => rfl) h.unused
    (fun holder n howns => .inl (h.register hending holder n howns))
    fun _ _ _ _ _ => .inl rfl

/-- Calls have numbers and crowds of their own, and each is coherent until it ends. Fetches are always let in. -/
structure Sound (r : Resolver W) (s : Sessions W) : Prop where
  opened : s.shared.permits.closed = false
  numbers : ∀ (i j : Nat) (c c' : Call W), s.calls[i]? = some c → s.calls[j]? = some c' →
    c.number = c'.number → i = j
  coherent : ∀ (i : Nat) (c : Call W), s.calls[i]? = some c → c.ending = none →
    Coherent r.graph (Wide r.graph c) ⟨c, s.shared⟩
  apart : ∀ (i j : Nat) (c c' : Call W), s.calls[i]? = some c → s.calls[j]? = some c' →
    c.ending = none → c'.ending = none → ∀ holder holder' n, Session.Owns ⟨c, s.shared⟩ holder n →
    Session.Owns ⟨c', s.shared⟩ holder' n → i = j
  logged : ∀ e ∈ s.shared.log, ∃ (i : Nat) (c : Call W), s.calls[i]? = some c ∧ c.number = e.call

section

variable {r : Resolver W} {s : Sessions W} {place : Nat} {c : Call W} {u : Session W}

/-- What one call does happens elsewhere for all others. -/
theorem Sound.elsewhere (hs : Sound r s) (hc : s.calls[place]? = some c) (hending : c.ending = none)
    (hbeside : Beside ⟨c, s.shared⟩ u) {i : Nat} {c' : Call W} (hc' : s.calls[i]? = some c') (hi : i ≠ place) :
    Elsewhere c' s.shared u.shared where
  clock := Nat.le_of_eq hbeside.clock.symm
  unused := hbeside.unused
  register hending' holder n howns :=
    hbeside.register n ((hs.coherent i c' hc' hending').numbered holder n howns) fun holder' howns' =>
      hi (hs.apart i place c' c hc' hc hending' hending holder holder' n howns howns')
  log := by
    obtain ⟨es, hlog, hes⟩ := hbeside.log
    refine ⟨es, hlog, fun e he heq => hi ?_⟩
    exact hs.numbers i place c' c hc' hc (heq.symm.trans (hes e he))
  closed := hbeside.closed

/-- A call of the list afterwards is the one that had its turn, or another one that is as it was. -/
theorem getElem?_set_cases {calls : List (Call W)} {x c' : Call W} {i : Nat} (hc : calls[place]? = some c)
    (h : (calls.set place x)[i]? = some c') : i = place ∧ c' = x ∨ i ≠ place ∧ calls[i]? = some c' := by
  rw [List.getElem?_set] at h
  by_cases hi : place = i
  · rw [if_pos hi, if_pos (List.getElem?_eq_some_iff.1 hc).1] at h
    exact .inl ⟨hi.symm, (Option.some.inj h).symm⟩
  · rw [if_neg hi] at h
    exact .inr ⟨fun e => hi e.symm, h⟩

theorem Sound.acts (hs : Sound r s) (hc : s.calls[place]? = some c) (hending : c.ending = none)
    (hbeside : Beside ⟨c, s.shared⟩ u)
    (hcoherent : u.call.ending = none → Coherent r.graph (Wide r.graph u.call) u) :
    Sound r ⟨s.calls.set place u.call, u.shared⟩ := by
  have hlt := (List.getElem?_eq_some_iff.1 hc).1
  have howns : ∀ i c' holder n, i ≠ place → s.calls[i]? = some c' → c'.ending = none →
      Session.Owns ⟨c', s.shared⟩ holder n → ∀ holder', ¬ u.Owns holder' n := by
    intro i c' holder n hi hc' hending' howns holder' hu
    rcases hbeside.owns holder' n hu with ⟨holder'', hold⟩ | hfresh
    · exact hi (hs.apart i place c' c hc' hc hending' hending holder holder'' n howns hold)
    · exact absurd ((hs.coherent i c' hc' hending').numbered holder n howns) (Nat.not_lt.2 hfresh)
  refine ⟨hbeside.closed.trans hs.opened, fun i j a b ha hb heq => ?_, fun i a ha hend => ?_,
    fun i j a b ha hb hend hend' holder holder' n hown hown' => ?_, fun e he => ?_⟩
  · rcases getElem?_set_cases hc ha with ⟨rfl, rfl⟩ | ⟨hi, ha'⟩ <;>
      rcases getElem?_set_cases hc hb with ⟨rfl, rfl⟩ | ⟨hj, hb'⟩
    · rfl
    · exact hs.numbers i j c b hc hb' (hbeside.number.symm.trans heq)
    · exact hs.numbers i j a c ha' hc (heq.trans hbeside.number)
    · exact hs.numbers i j a b ha' hb' heq
  · rcases getElem?_set_cases hc ha with ⟨rfl, rfl⟩ | ⟨hi, ha⟩
    · exact hcoherent hend
    · exact (hs.coherent i a ha hend).elsewhere hend (hs.elsewhere hc hending hbeside ha hi)
  · rcases getElem?_set_cases hc ha with ⟨rfl, rfl⟩ | ⟨hi, ha'⟩ <;>
      rcases getElem?_set_cases hc hb with ⟨rfl, rfl⟩ | ⟨hj, hb'⟩
    · rfl
    · exact absurd hown (howns j b holder' n hj hb' hend' hown' holder)
    · exact absurd hown' (howns i a holder n hi ha' hend hown holder')
    · exact hs.apart i j a b ha' hb' hend hend' holder holder' n hown hown'
  · obtain ⟨es, hlog, hes⟩ := hbeside.log
    rw [hlog] at he
    rcases List.mem_append.1 he with he | he
    · refine ⟨place, u.call, ?_, hbeside.number.trans (hes e he).symm⟩
      rw [List.getElem?_set, if_pos rfl, if_pos hlt]
    · obtain ⟨i, a, ha, hnumber⟩ := hs.logged e he
      by_cases hi : i = place
      · subst hi
        refine ⟨i, u.call, by rw [List.getElem?_set, if_pos rfl, if_pos hlt], ?_⟩
        obtain rfl := Option.some.inj (hc.symm.trans ha)
        exact hbeside.number.trans hnumber
      · exact ⟨i, a, by rw [List.getElem?_set, if_neg fun e => hi e.symm]; exact ha, hnumber⟩

theorem Moves.wide {g : Graph W} {wide : Prop} {s t : Session W} {b : Bool} (h : Moves g wide s b t) :
    Wide g t.call = Wide g s.call := Wide.congr h.wanted

/-- What one call does in its turn leaves all calls as they should be. -/
theorem Sound.closes (hs : Sound r s) (hc : s.calls[place]? = some c) (hending : c.ending = none) {b : Bool}
    {t : Session W} (hmoves : Moves r.graph (Wide r.graph c) ⟨c, s.shared⟩ b t) (hcloses : Closes r b t u) :
    Sound r ⟨s.calls.set place u.call, u.shared⟩ := by
  have hcoherent := hs.coherent place c hc hending
  have ht := hmoves.coherent hcoherent
  refine hs.acts hc hending ((hmoves.beside hcoherent).trans hcloses.beside) fun hopen => ?_
  cases hcloses with
  | waits =>
    rw [hmoves.wide]
    exact ht
  | returns | breaks | leaves => cases hopen

/-- Dropping a call is a way to close it. -/
theorem drop_closes (r : Resolver W) (s : Session W) : Closes r false s (r.drop s) := by
  unfold drop
  cases hbegun : s.call.begun with
  | none => exact .leaves (.refl none s) nofun (.idle (by rw [Session.group?, hbegun, Option.map_none]))
  | some begun =>
    obtain ⟨roots, limit⟩ := begun
    have hgroup : s.group? none = some roots := by rw [Session.group?, hbegun, Option.map_some]
    obtain ⟨hdrops, hcrowd⟩ := breakOff_drops r hgroup ((r.graph.roots s.call.requested).map Node.id)
    exact .leaves hdrops hcrowd (.roots hgroup)

/-- What a property of a call has to be kept by. -/
structure Kept (r : Resolver W) (passes : Call W → Nat → Prop) (P : Call W → Shared W → Prop) : Prop where
  starts : ∀ c sh, c.Fresh → (∀ e ∈ sh.log, e.call ≠ c.number) → P c sh
  turns : ∀ s b t u, s.call.ending = none → Coherent r.graph (Wide r.graph s.call) s → P s.call s.shared →
    Moves r.graph (Wide r.graph s.call) s b t → Closes r b t u → P u.call u.shared
  elsewhere : ∀ c sh sh', Elsewhere c sh sh' →
    (c.ending = none → sh'.scheduler.clock = sh.scheduler.clock ∨ passes c sh'.scheduler.clock) → P c sh → P c sh'

theorem Sound.starts (hs : Sound r s) (hfresh : c.Fresh) (hnumber : ∀ c' ∈ s.calls, c'.number ≠ c.number) :
    Sound r { s with calls := s.calls ++ [c] } := by
  have hcases : ∀ {i : Nat} {a : Call W}, (s.calls ++ [c])[i]? = some a →
      s.calls[i]? = some a ∨ i = s.calls.length ∧ a = c := by
    intro i a ha
    rw [List.getElem?_append] at ha
    split at ha
    · exact .inl ha
    · rw [List.getElem?_singleton] at ha
      split at ha
      · exact .inr ⟨by omega, (Option.some.inj ha).symm⟩
      · cases ha
  have hfreshOwns := hfresh.not_owns s.shared
  refine ⟨hs.opened, fun i j a b ha hb heq => ?_, fun i a ha hend => ?_,
    fun i j a b ha hb hend hend' holder holder' n hown hown' => ?_, fun e he => ?_⟩
  · rcases hcases ha with ha' | ⟨rfl, rfl⟩ <;> rcases hcases hb with hb' | ⟨rfl, rfl⟩
    · exact hs.numbers i j a b ha' hb' heq
    · exact absurd heq (hnumber a (List.mem_of_getElem? ha'))
    · exact absurd heq.symm (hnumber b (List.mem_of_getElem? hb'))
    · rfl
  · rcases hcases ha with ha | ⟨rfl, rfl⟩
    · exact hs.coherent i a ha hend
    · exact hfresh.coherent hs.opened
  · rcases hcases ha with ha | ⟨rfl, rfl⟩
    · rcases hcases hb with hb | ⟨rfl, rfl⟩
      · exact hs.apart i j a b ha hb hend hend' holder holder' n hown hown'
      · exact absurd hown' (hfreshOwns holder' n)
    · exact absurd hown (hfreshOwns holder n)
  · obtain ⟨i, a, ha, hn⟩ := hs.logged e he
    exact ⟨i, a, List.getElem?_append_left (List.getElem?_eq_some_iff.1 ha).1 ▸ ha, hn⟩

theorem Sound.passes (hs : Sound r s) {sh : Shared W} (hlog : sh.log = s.shared.log)
    (hclosed : sh.permits.closed = s.shared.permits.closed) (h : ∀ c ∈ s.calls, Elsewhere c s.shared sh) :
    Sound r { s with shared := sh } where
  opened := hclosed.trans hs.opened
  numbers := hs.numbers
  coherent i a ha hend := (hs.coherent i a ha hend).elsewhere hend (h a (List.mem_of_getElem? ha))
  apart := hs.apart
  logged e he := hs.logged e (hlog ▸ he)

end

/-- A step either starts a call, lets one act or happens elsewhere for all of them. -/
theorem Step.kept {r : Resolver W} {passes : Call W → Nat → Prop} {P : Call W → Shared W → Prop}
    (hP : Kept r passes P) {s s' : Sessions W} (h : Step r passes s s') (hs : Sound r s)
    (hall : ∀ c ∈ s.calls, P c s.shared) : Sound r s' ∧ ∀ c ∈ s'.calls, P c s'.shared := by
  have hacts : ∀ {place : Nat} {c : Call W} {u t : Session W} {b : Bool}, s.calls[place]? = some c →
      c.ending = none → Moves r.graph (Wide r.graph c) ⟨c, s.shared⟩ b t → Closes r b t u →
      Sound r ⟨s.calls.set place u.call, u.shared⟩ ∧ ∀ a ∈ s.calls.set place u.call, P a u.shared := by
    intro place c u t b hc hending hmoves hcloses
    have hcoherent := hs.coherent place c hc hending
    have hbeside := (hmoves.beside hcoherent).trans hcloses.beside
    refine ⟨hs.closes hc hending hmoves hcloses, fun a ha => ?_⟩
    obtain ⟨i, hi⟩ := List.mem_iff_getElem?.1 ha
    rcases getElem?_set_cases hc hi with ⟨-, rfl⟩ | ⟨hne, hi⟩
    · exact hP.turns ⟨c, s.shared⟩ b t u hending hcoherent (hall c (List.mem_of_getElem? hc)) hmoves hcloses
    · exact hP.elsewhere a s.shared u.shared (hs.elsewhere hc hending hbeside hi hne) (fun _ => .inl hbeside.clock)
        (hall a (List.mem_of_getElem? hi))
  cases h with
  | @starts c hfresh hnumber =>
    refine ⟨hs.starts hfresh hnumber, fun a ha => ?_⟩
    rcases List.mem_append.1 ha with ha | ha
    · exact hall a ha
    · rw [List.mem_singleton.1 ha]
      refine hP.starts c s.shared hfresh fun e he heq => ?_
      obtain ⟨i, a, ha, hn⟩ := hs.logged e he
      exact hnumber a (List.mem_of_getElem? ha) (hn.trans heq)
  | turns w place =>
    unfold turn
    cases hc : s.calls[place]? with
    | none => exact ⟨hs, hall⟩
    | some c =>
      dsimp only
      split
      · exact ⟨hs, hall⟩
      · next hopen =>
        have hending : c.ending = none := Option.not_isSome_iff_eq_none.1 hopen
        obtain ⟨b, t, hmoves, hcloses⟩ := goOn_closes r w (hs.coherent place c hc hending)
        exact hacts hc hending hmoves hcloses
  | drops hc hending => exact hacts hc hending .refl (drop_closes r _)
  | passes helsewhere hpasses =>
    exact ⟨hs.passes rfl rfl helsewhere, fun c hc =>
      hP.elsewhere c s.shared _ (helsewhere c hc) (hpasses c hc) (hall c hc)⟩

/-- What is put down stays put down. -/
theorem Step.log {r : Resolver W} {passes : Call W → Nat → Prop} {s s' : Sessions W} (h : Step r passes s s')
    (hs : Sound r s) : s.shared.log <:+ s'.shared.log := by
  have hbeside : ∀ {t u : Session W}, Beside t u → t.shared.log <:+ u.shared.log := fun hb => by
    obtain ⟨es, hlog, -⟩ := hb.log
    exact ⟨es, hlog.symm⟩
  cases h with
  | starts | passes => exact List.suffix_refl _
  | turns w place =>
    unfold turn
    cases hc : s.calls[place]? with
    | none => exact List.suffix_refl _
    | some c =>
      dsimp only
      split
      · exact List.suffix_refl _
      · next hopen =>
        have hcoherent := hs.coherent place c hc (Option.not_isSome_iff_eq_none.1 hopen)
        obtain ⟨b, t, hmoves, hcloses⟩ := goOn_closes r w hcoherent
        exact (hbeside (hmoves.beside hcoherent)).trans (hbeside hcloses.beside)
  | @drops place c hc hending => exact hbeside (drop_closes r ⟨c, s.shared⟩).beside

/-- **What is kept holds of every call in every state that can be reached.** -/
theorem Reachable.kept {r : Resolver W} {passes : Call W → Nat → Prop} {P : Call W → Shared W → Prop}
    (hP : Kept r passes P) {s : Sessions W} (h : Reachable r passes s) :
    Sound r s ∧ ∀ c ∈ s.calls, P c s.shared := by
  obtain ⟨world, h⟩ := h
  induction h with
  | refl =>
    have hnone : ∀ (i : Nat) (c : Call W), ([] : List (Call W))[i]? ≠ some c := fun i c hc => by
      rw [List.getElem?_nil] at hc
      cases hc
    exact ⟨⟨rfl, fun i _ c _ hc => absurd hc (hnone i c), fun i c hc => absurd hc (hnone i c),
      fun i _ c _ hc => absurd hc (hnone i c), fun _ he => absurd he List.not_mem_nil⟩,
      fun _ hc => absurd hc List.not_mem_nil⟩
  | tail _ hstep ih => exact hstep.kept hP ih.1 ih.2

theorem Reachable.sound {r : Resolver W} {passes : Call W → Nat → Prop} {s : Sessions W}
    (h : Reachable r passes s) : Sound r s := by
  have htrue : Kept r passes fun _ _ => True :=
    ⟨fun _ _ _ _ => trivial, fun _ _ _ _ _ _ _ _ _ => trivial, fun _ _ _ _ _ _ => trivial⟩
  exact (h.kept htrue).1

section

variable {r : Resolver W} {passes : Call W → Nat → Prop} {s s' : Sessions W}

theorem Reachable.step (h : Reachable r passes s) (hstep : Step r passes s s') : Reachable r passes s' := by
  obtain ⟨world, hrun⟩ := h
  exact ⟨world, hrun.tail hstep⟩

theorem Reachable.log (h : Reachable r passes s) (h' : Relation.ReflTransGen (Step r passes) s s') :
    Reachable r passes s' ∧ s.shared.log <:+ s'.shared.log := by
  induction h' with
  | refl => exact ⟨h, List.suffix_refl _⟩
  | tail _ hstep ih => exact ⟨ih.1.step hstep, ih.2.trans (hstep.log ih.1.sound)⟩

/-- Calls may be started one after the other before any of them has a turn. -/
theorem Reachable.starts (h : Reachable r passes s) (calls : List (Call W)) (hfresh : ∀ c ∈ calls, c.Fresh)
    (hnumbers : ((s.calls ++ calls).map Call.number).Nodup) :
    Reachable r passes { s with calls := s.calls ++ calls } := by
  induction calls generalizing s with
  | nil => simpa using h
  | cons c rest ih =>
    have hnumber : ∀ c' ∈ s.calls, c'.number ≠ c.number := by
      intro c' hc'
      rw [List.map_append, List.nodup_append] at hnumbers
      exact hnumbers.2.2 _ (List.mem_map_of_mem hc') _ (List.mem_map_of_mem List.mem_cons_self)
    have hstarted := h.step (.starts (hfresh c List.mem_cons_self) hnumber)
    have hrest := ih hstarted (fun c' hc' => hfresh c' (List.mem_cons_of_mem c hc')) (by simpa using hnumbers)
    simpa using hrest

theorem reachable_of_fresh (r : Resolver W) (passes : Call W → Nat → Prop) (world : W) {calls : List (Call W)}
    (hfresh : ∀ c ∈ calls, c.Fresh) (hnumbers : (calls.map Call.number).Nodup) :
    Reachable r passes ⟨calls, r.shared world⟩ :=
  Reachable.starts (s := ⟨[], r.shared world⟩) ⟨world, .refl⟩ calls hfresh hnumbers

end

namespace Sample

def mail : AttributeMap := .ofAttributes [.ofStrings "mail" ["alice@example.org"]]

/-- A connector that answers after some time. -/
def after (ms : Nat) (answer : Except ConnectorError AttributeMap) : Connector Unit := fun _ =>
  .sleep ms (.done answer)

/-- A definition that needs what a directory gives. -/
def graph (directory : Connector Unit) : Graph Unit where
  nodes := [.definition { id := "mail", dependencies := [{ node := "directory" }], definition := .simple },
    .connector { id := "directory", connector := directory }]
  valid := rfl

def call (number : Nat) : Call Unit := { number, request := { principal := "alice" }, timeout := 5000 }

/-- Every call has a turn, one after the other. -/
def round (r : Resolver Unit) (s : Sessions Unit) : Sessions Unit :=
  (List.range s.calls.length).foldl (fun s place => (r.turn .driver place s).2) s

/-- Calls have come, and every one of them has had a turn. -/
def begun (r : Resolver Unit) (calls : List (Call Unit)) : Sessions Unit := round r ⟨calls, r.shared ()⟩

/-- Time has passed. -/
def later (ms : Nat) (s : Sessions Unit) : Sessions Unit :=
  { s with shared.scheduler.clock := s.shared.scheduler.clock + ms }

section

variable {r : Resolver Unit} {passes : Call Unit → Nat → Prop} {s : Sessions Unit}

theorem reachable_round (h : Reachable r passes s) : Reachable r passes (round r s) := by
  unfold round
  induction List.range s.calls.length generalizing s with
  | nil => exact h
  | cons place rest ih => exact ih (h.step (.turns .driver place))

theorem reachable_begun (r : Resolver Unit) (passes : Call Unit → Nat → Prop) {calls : List (Call Unit)}
    (hfresh : ∀ c ∈ calls, c.Fresh) (hnumbers : (calls.map Call.number).Nodup) :
    Reachable r passes (begun r calls) :=
  reachable_round (reachable_of_fresh r passes () hfresh hnumbers)

theorem reachable_begun_call (r : Resolver Unit) (passes : Call Unit → Nat → Prop) (number : Nat) :
    Reachable r passes (begun r [call number]) :=
  reachable_begun r passes (List.forall_mem_singleton.2 ⟨rfl, rfl, rfl⟩) (List.nodup_singleton _)

theorem reachable_later (h : Reachable r passes s) {ms : Nat}
    (hpasses : ∀ c ∈ s.calls, passes c (s.shared.scheduler.clock + ms)) : Reachable r passes (later ms s) :=
  h.step (.passes (fun _ _ => ⟨Nat.le_add_right _ ms, Nat.le_refl _, fun _ _ _ _ => rfl,
    ⟨[], rfl, fun _ he => absurd he List.not_mem_nil⟩, rfl⟩) fun c hc _ => .inr (hpasses c hc))

end

/-- The directory takes its time. -/
def resolver : Resolver Unit := { graph := graph (after 5 (.ok mail)) }

/-- The call has begun to ask the directory. -/
def asking : Sessions Unit := begun resolver [call 0]

/-- It is time for the answer. -/
def answered : Sessions Unit := later 5 asking

/-- The call has come to its end. -/
def ended : Sessions Unit := round resolver answered

theorem reachable_ended {passes : Call Unit → Nat → Prop}
    (hpasses : ∀ c ∈ asking.calls, passes c answered.shared.scheduler.clock) :
    Reachable resolver passes ended :=
  reachable_round (reachable_later (reachable_begun_call resolver passes 0) hpasses)

end Sample

end Resolver

end AttributeRelease
