import AttributeRelease.Proofs.Resolver.Coherence
import AttributeRelease.Proofs.Resolver.Dismissal

/-!
A turn of a node is a chain of moves. Asking for a node goes down the graph, and nothing at or above the rank
of whoever asks is touched on the way, so that a node finds itself as it was when its turn comes to it again.
What the asker is told is how the node stands.
-/

namespace AttributeRelease

namespace Resolver

variable {W : Type}

/-- A chain of moves that touches nothing from a rank on, and not the group of the call. -/
structure Goes (g : Graph W) (wide : Prop) (rank : String → Nat) (bound : Nat) (fails : Bool)
    (s t : Session W) : Prop where
  moves : Moves g wide s fails t
  above : ∀ x, bound ≤ rank x → t.stage x = s.stage x
  begun : t.call.begun = s.call.begun

/-- A turn of a node, after which the asker is told how the node stands. -/
structure Replies (g : Graph W) (wide : Prop) (rank : String → Nat) (bound : Nat) (id : String)
    (s : Session W) (r : Standing × Session W) : Prop where
  goes : Goes g wide rank bound (decide (r.1 = .failed)) s r.2
  answer : r.1 ≠ .waits → r.2.standing id = r.1

/-- A turn of a group, and what its verdict tells of the members. -/
structure Judges (g : Graph W) (wide : Prop) (rank : String → Nat) (bound : Nat) (ids : List String)
    (s : Session W) (r : Verdict × Session W) : Prop where
  moves : ∃ fails, Goes g wide rank bound fails s r.2 ∧ (fails = true → ∃ place, r.1 = .failed place)
  ended : r.1 = .ended → ∀ id ∈ ids, r.2.standing id = .ended
  failed : ∀ place, r.1 = .failed place → ∃ id, ids[place]? = some id ∧ r.2.standing id = .failed

section

variable {g : Graph W} {wide : Prop} {rank : String → Nat} {bound bound' : Nat} {s t u : Session W}

namespace Goes

theorem refl (s : Session W) : Goes g wide rank bound false s s := ⟨.refl, fun _ _ => rfl, rfl⟩

theorem trans {b : Bool} (h : Goes g wide rank bound false s t) (h' : Goes g wide rank bound b t u) :
    Goes g wide rank bound b s u :=
  ⟨h.moves.trans h'.moves, fun x hx => (h'.above x hx).trans (h.above x hx), h'.begun.trans h.begun⟩

theorem slack {b : Bool} (h : Goes g wide rank bound false s t) : Goes g wide rank bound b s t := by
  cases b with
  | false => exact h
  | true => exact ⟨.slack h.moves, h.above, h.begun⟩

theorem resume {b : Bool} (hwide : wide) (h : Goes g wide rank bound b s t) :
    Goes g wide rank bound false s t := by
  cases b with
  | false => exact h
  | true => exact ⟨.resume hwide h.moves, h.above, h.begun⟩

theorem weaken {b : Bool} (h : Goes g wide rank bound b s t) (hle : bound ≤ bound') :
    Goes g wide rank bound' b s t :=
  ⟨h.moves, fun x hx => h.above x (Nat.le_trans hle hx), h.begun⟩

/-- A move that leaves the stages of all nodes alone. -/
theorem of_move (h : Move g false s t) (hstage : ∀ x, t.stage x = s.stage x)
    (hbegun : t.call.begun = s.call.begun) : Goes g wide rank bound false s t :=
  ⟨.single h, fun x _ => hstage x, hbegun⟩

/-- The evaluation of a node goes on. -/
theorem of_setPhase {id : String} {es : List Event} {asker : Asker} {phase : Phase W}
    (halters : Alters id es s t) (hcall : u.call = t.call)
    (hmove : Move g false s (u.setPhase id asker phase)) :
    Goes g wide rank (rank id + 1) false s (u.setPhase id asker phase) := by
  refine ⟨.single hmove, fun x hx => ?_, ?_⟩
  · refine Session.stage_setPhase_of_ne halters hcall asker phase ?_
    rintro rfl
    omega
  · rw [(u.alters_setPhase id asker phase).call, hcall, halters.call]

theorem group? {b : Bool} (h : Goes g wide rank bound b s t) {holder : Option String}
    (hholder : ∀ id, holder = some id → bound ≤ rank id) : t.group? holder = s.group? holder :=
  Session.group?_congr (by rw [h.begun]) fun id hid => h.above id (hholder id hid)

end Goes

namespace Replies

variable {id : String} {r : Standing × Session W}

theorem after (h : Goes g wide rank bound false s t) (h' : Replies g wide rank bound id t r) :
    Replies g wide rank bound id s r := ⟨h.trans h'.goes, h'.answer⟩

theorem waits (h : Goes g wide rank bound false s t) : Replies g wide rank bound id s (.waits, t) :=
  ⟨h, fun hne => absurd rfl hne⟩

theorem weaken (h : Replies g wide rank bound id s r) (hle : bound ≤ bound') :
    Replies g wide rank bound' id s r := ⟨h.goes.weaken hle, h.answer⟩

/-- Who asks for a settled node is told so. -/
theorem settled (h : Goes g wide rank bound false s t) (hstanding : t.standing id = r.1) (ht : r.2 = t) :
    Replies g wide rank bound id s r := by
  obtain ⟨st, t'⟩ := r
  subst ht
  exact ⟨h.slack, fun _ => hstanding⟩

/-- A node is settled at the end of a chain that failed only if the node fails with it. -/
theorem conclude {b : Bool} (h : Moves g wide s b t) {o : Outcome} {u : Session W}
    (hb : b = true → o.standing = .failed ∧ Falls g t (u.settle id o))
    (hmove : Move g (decide (o.standing = .failed)) t (u.settle id o))
    (habove : ∀ x, rank id + 1 ≤ rank x → u.stage x = s.stage x) (hbegun : u.call.begun = s.call.begun) :
    Replies g wide rank (rank id + 1) id s (Pursuit.conclude id o u) := by
  have halters := u.alters_settle id o
  have hmoves : Moves g wide s (decide (o.standing = .failed)) (u.settle id o) := by
    cases hfails : decide (o.standing = .failed) with
    | false =>
      rw [hfails] at hmove
      cases b with
      | false => exact .tail h hmove
      | true => exact absurd (hb rfl).1 (of_decide_eq_false hfails)
    | true =>
      rw [hfails] at hmove
      cases b with
      | false => exact .fall h hmove
      | true => exact .follow h (hb rfl).2
  rw [Pursuit.conclude]
  refine ⟨⟨hmoves, fun x hx => ?_, ?_⟩, fun _ => ?_⟩
  · have hne : x ≠ id := by
      rintro rfl
      omega
    exact (Session.stage_of_alters halters hne).trans (habove x hx)
  · exact (congrArg Call.begun halters.call).trans hbegun
  · exact Session.standing_of_settled (u.stage_settle id o)

end Replies

end

section

variable {g : Graph W} {wide : Prop} {rank : String → Nat} {bound : Nat} {ids : List String}
  {turn : Waker → Nat → Session W → Standing × Session W}

/-- The turn of the member at a place: that of the node that is wanted there, if there is one. -/
def TurnsMember (g : Graph W) (wide : Prop) (rank : String → Nat) (bound : Nat) (holder : Option String)
    (ids : List String) (turn : Waker → Nat → Session W → Standing × Session W) : Prop :=
  ∀ w place s, Coherent g wide s → (∀ id, ids[place]? = some id → Asking g s ⟨holder, place⟩ id) →
    (∃ id, ids[place]? = some id ∧ Replies g wide rank bound id s (turn w place s)) ∨
      (ids[place]? = none ∧ turn w place s = (.ended, s))

theorem turnInOrder_judges {holder : Option String} (hturn : TurnsMember g wide rank bound holder ids turn)
    (hholder : ∀ id, holder = some id → bound ≤ rank id) (w : Waker) (places : List Nat)
    (allEnded : Bool) {s : Session W} (hs : Coherent g wide s) {size : Nat}
    (hgroup : s.group? holder = some ⟨size, none⟩) (hids : wanted g s.call holder = ids)
    {r : Verdict × Session W} (hr : Group.turnInOrder turn w places allEnded s = r) :
    (∃ fails, Goes g wide rank bound fails s r.2 ∧ (fails = true → ∃ place, r.1 = .failed place)) ∧
      (r.1 = .ended → allEnded = true ∧
        ∀ place ∈ places, ∀ id, ids[place]? = some id → r.2.standing id = .ended) ∧
      (∀ place, r.1 = .failed place → ∃ id, ids[place]? = some id ∧ r.2.standing id = .failed) := by
  induction places generalizing s allEnded with
  | nil =>
    subst hr
    rw [Group.turnInOrder]
    refine ⟨⟨false, .refl s, nofun⟩, fun hended => ⟨?_, nofun⟩, fun place hplace => ?_⟩
    · cases allEnded with
      | true => rfl
      | false => cases hended
    · cases allEnded <;> cases hplace
  | cons place rest ih =>
    rw [Group.turnInOrder] at hr
    have hasking : ∀ id, ids[place]? = some id → Asking g s ⟨holder, place⟩ id :=
      fun id hid => .member hgroup (hids ▸ hid) nofun
    rcases hturn w place s hs hasking with ⟨id, hid, hreplies⟩ | ⟨hid, hnobody⟩
    · have hgroup' := (hreplies.goes.group? hholder).trans hgroup
      have hids' := hreplies.goes.moves.wanted ▸ hids
      cases hmember : turn w place s with
      | mk st t =>
        rw [hmember] at hreplies hgroup' hids' hr
        cases st with
        | waits =>
          have ht := hreplies.goes.moves.coherent hs
          obtain ⟨⟨fails, hgoes, hfails⟩, hended, hfailed⟩ := ih false ht hgroup' hids' hr
          refine ⟨⟨fails, hreplies.goes.trans hgoes, hfails⟩, fun h => ?_, hfailed⟩
          exact absurd (hended h).1 Bool.false_ne_true
        | ended =>
          have ht := hreplies.goes.moves.coherent hs
          obtain ⟨⟨fails, hgoes, hfails⟩, hended, hfailed⟩ := ih allEnded ht hgroup' hids' hr
          refine ⟨⟨fails, hreplies.goes.trans hgoes, hfails⟩, fun h => ⟨(hended h).1, ?_⟩, hfailed⟩
          intro place' hplace' id' hid'
          rcases List.mem_cons.1 hplace' with rfl | hrest
          · obtain rfl := Option.some.inj (hid.symm.trans hid')
            have hthere : t.standing id = .ended := hreplies.answer nofun
            rw [hgoes.moves.stands ht (by rw [hthere]; exact nofun), hthere]
          · exact (hended h).2 place' hrest id' hid'
        | failed =>
          subst hr
          refine ⟨⟨true, hreplies.goes, fun _ => ⟨place, rfl⟩⟩, nofun, fun _ hplace => ⟨id, ?_, ?_⟩⟩
          · exact Verdict.failed.inj hplace ▸ hid
          · exact hreplies.answer nofun
    · rw [hnobody] at hr
      obtain ⟨hgoes, hended, hfailed⟩ := ih allEnded hs hgroup hids hr
      refine ⟨hgoes, fun h => ⟨(hended h).1, fun place' hplace' id' hid' => ?_⟩, hfailed⟩
      rcases List.mem_cons.1 hplace' with rfl | hrest
      · rw [hid] at hid'
        cases hid'
      · exact (hended h).2 place' hrest id' hid'

/-! ### Crowds -/

theorem verdict_ended {c : Crowd} {size : Nat} (h : c.verdict size = .ended) (place : Nat) (hlt : place < size) :
    c.register place = (false, false) := by
  unfold Crowd.verdict at h
  split at h
  · next hfind =>
    have hnone := List.find?_eq_none.1 hfind place (List.mem_range.2 hlt)
    simp only [Bool.or_eq_true, not_or, Bool.not_eq_true] at hnone
    rw [Crowd.register, hnone.1, hnone.2]
  · split at h <;> cases h

theorem verdict_failed {c : Crowd} {size place : Nat} (h : c.verdict size = .failed place) :
    place < size ∧ (c.register place).2 = true := by
  unfold Crowd.verdict at h
  split at h
  · cases h
  · next place' hfind =>
    split at h
    · cases h
    · next halive =>
      obtain rfl := Verdict.failed.inj h
      have hthere := List.find?_some hfind
      rw [Bool.or_eq_true] at hthere
      exact ⟨List.mem_range.1 (List.mem_of_find?_eq_some hfind), hthere.resolve_left halive⟩

/-- The verdict of a crowd is right. -/
theorem verdict_judges {s t : Session W} {b : Bool} (hgoes : Goes g wide rank bound b s t)
    (hb : b = true → wide) {c : Crowd} (hagrees : Agrees t ids c.register) :
    Judges g wide rank bound ids s (c.verdict ids.length, t) := by
  refine ⟨⟨false, ?_, nofun⟩, fun hended id hid => ?_, fun place hfailed => ?_⟩
  · cases b with
    | false => exact hgoes
    | true => exact hgoes.resume (hb rfl)
  · obtain ⟨place, hlt, rfl⟩ := List.getElem_of_mem hid
    obtain ⟨-, hstands⟩ := hagrees place _ (List.getElem?_eq_getElem hlt)
    have hregister := verdict_ended hended place hlt
    rw [hregister] at hstands
    obtain ⟨hsettled, hmarked⟩ := hstands rfl
    cases hst : t.standing ids[place] with
    | waits => exact absurd hst hsettled
    | ended => rfl
    | failed => exact absurd (hmarked hst) Bool.false_ne_true
  · obtain ⟨hlt, hregister⟩ := verdict_failed hfailed
    have hid := List.getElem?_eq_getElem hlt
    exact ⟨ids[place], hid, (hagrees place _ hid).1 hregister⟩

theorem Judges.after {s t : Session W} (h : Goes g wide rank bound false s t) {r : Verdict × Session W}
    (h' : Judges g wide rank bound ids t r) : Judges g wide rank bound ids s r := by
  obtain ⟨fails, hgoes, hfails⟩ := h'.moves
  exact ⟨⟨fails, h.trans hgoes, hfails⟩, h'.ended, h'.failed⟩

theorem Judges.waits {s t : Session W} (h : Goes g wide rank bound false s t) :
    Judges g wide rank bound ids s (.waits, t) := ⟨⟨false, h, nofun⟩, nofun, nofun⟩

/-- A crowd is under way for the nodes with these ids. -/
structure Gathers (g : Graph W) (wide : Prop) (holder : Option String) (number : Nat) (ids : List String)
    (s : Session W) : Prop where
  coherent : Coherent g wide s
  owns : s.Owns holder number
  wanted : wanted g s.call holder = ids

namespace Gathers

variable {holder : Option String} {number : Nat} {s t : Session W}

theorem agrees (h : Gathers g wide holder number ids s) {c : Crowd}
    (hc : s.shared.scheduler.crowd? number = some c) : Agrees s ids c.register := by
  have hregister : s.shared.scheduler.register number = some c.register := by
    rw [Scheduler.register, hc, Option.map_some]
  exact h.wanted ▸ h.coherent.agrees holder number c.register h.owns hregister

/-- Whatever goes on below its holder the crowd is still under way. -/
theorem goes (h : Gathers g wide holder number ids s) (hholder : ∀ id, holder = some id → bound ≤ rank id) {b : Bool}
    (hgoes : Goes g wide rank bound b s t) : Gathers g wide holder number ids t := by
  obtain ⟨size, hgroup⟩ := h.owns
  refine ⟨hgoes.moves.coherent h.coherent, ⟨size, ?_⟩, ?_⟩
  · rw [hgoes.group? hholder, hgroup]
  · rw [hgoes.moves.wanted, h.wanted]

/-- A crowd takes note of how one of its members came out of its turn. -/
theorem note (h : Gathers g wide holder number ids s) (place : Nat) {f : Crowd → Crowd}
    (hothers : ∀ c p, p ≠ place → (f c).register p = c.register p)
    (hplace : ∀ c id, Agrees s ids c.register → ids[place]? = some id →
      (((f c).register place).2 = true → s.standing id = .failed) ∧
        (((f c).register place).1 = false → s.standing id ≠ .waits ∧
          (s.standing id = .failed → ((f c).register place).2 = true))) :
    Goes g wide rank bound false s (reschedule s (·.alterCrowd number f)) := by
  have hself := s.shared.scheduler.register_alterCrowd_self number f
  refine .of_move (.notes h.owns rfl (Nat.le_refl _) (fun n hn => Scheduler.register_alterCrowd_of_ne _ hn f)
    (fun register hregister => ?_) fun hnone => .inl ?_) (fun _ => rfl) rfl
  swap
  · rw [hself, Option.map_eq_none_iff] at hnone
    rw [Scheduler.register, hnone, Option.map_none]
  rw [hself, Option.map_eq_some_iff] at hregister
  obtain ⟨c, hc, rfl⟩ := hregister
  have hagrees := h.agrees hc
  rw [h.wanted]
  intro p id hid
  by_cases hp : p = place
  · subst hp
    exact hplace c id hagrees hid
  · rw [hothers c p hp]
    exact hagrees p id hid

end Gathers

theorem register_rotate (c : Crowd) (place p : Nat) :
    p ≠ place → ({ c with alive := c.alive.erase place ++ [place] } : Crowd).register p = c.register p := by
  intro hp
  simp [Crowd.register, List.contains_eq_mem, List.mem_erase_of_ne hp, hp]

theorem register_remove (c : Crowd) (place p : Nat) (hasFailed : Prop) [Decidable hasFailed] (w : Waker) :
    p ≠ place → ({ c with
      alive := c.alive.erase place
      failed := if hasFailed then place :: c.failed else c.failed
      caller := some w } : Crowd).register p = c.register p := by
  intro hp
  by_cases hf : hasFailed
  · simp [Crowd.register, List.contains_eq_mem, List.mem_erase_of_ne hp, hp, hf]
  · simp [Crowd.register, List.contains_eq_mem, List.mem_erase_of_ne hp, hf]

namespace Gathers

variable {holder : Option String} {number : Nat} {s t : Session W}

/-- A member that waits is the last to have had a turn. -/
theorem rotate (h : Gathers g wide holder number ids s) (place : Nat) :
    Goes g wide rank bound false s
      (reschedule s (·.alterCrowd number fun c => { c with alive := c.alive.erase place ++ [place] })) := by
  refine h.note place (fun c p hp => register_rotate c place p hp) fun c id hold hid => ?_
  refine ⟨(hold place id hid).1, fun hgone => ?_⟩
  simp [Crowd.register, List.contains_eq_mem] at hgone

/-- A member that has ended or failed is struck off. -/
theorem strike (h : Gathers g wide holder number ids s) (place : Nat) {st : Standing} (hst : st ≠ .waits)
    (hanswer : ∀ id, ids[place]? = some id → s.standing id = st) (w : Waker) :
    Goes g wide rank bound false s (reschedule s fun k => k.alterCrowd number fun c => { c with
      alive := c.alive.erase place
      failed := if st = .failed then place :: c.failed else c.failed
      caller := some w }) := by
  refine h.note place (fun c p hp => register_remove c place p (st = .failed) w hp) fun c id hold hid => ?_
  have hstands := hanswer id hid
  obtain ⟨hmarked, -⟩ := hold place id hid
  by_cases hf : st = .failed
  · simp [Crowd.register, hstands, hf]
  · refine ⟨fun hmark => ?_, fun _ => ⟨hstands ▸ hst, fun hfailed => absurd (hstands.symm.trans hfailed) hf⟩⟩
    exact hmarked (by simpa [Crowd.register, hf] using hmark)

/-- Whoever is alive in a crowd asks for what is wanted at its place. -/
theorem asking (h : Gathers g wide holder number ids s) {c : Crowd} {place : Nat}
    (hc : s.shared.scheduler.register number = some c.register) (halive : place ∈ c.alive) (id : String)
    (hid : ids[place]? = some id) : Asking g s ⟨holder, place⟩ id := by
  obtain ⟨size, hgroup⟩ := h.owns
  refine .member hgroup (h.wanted ▸ hid) fun n hn => ?_
  obtain rfl := Option.some.inj hn
  exact ⟨c.register, hc, by simpa [Crowd.register] using halive⟩

/-- Whether or not a member fails in its turn, the crowd goes on: it is large. -/
theorem member (h : Gathers g wide holder number ids s) (hturn : TurnsMember g wide rank bound holder ids turn)
    {w : Waker} {place : Nat} (hasking : ∀ id, ids[place]? = some id → Asking g s ⟨holder, place⟩ id)
    {st : Standing} (hout : turn w place s = (st, t)) :
    Goes g wide rank bound false s t ∧ ∀ id, ids[place]? = some id → st ≠ .waits → t.standing id = st := by
  rcases hturn w place s h.coherent hasking with ⟨id, hid, hreplies⟩ | ⟨hnone, heq⟩
  · rw [hout] at hreplies
    refine ⟨hreplies.goes.resume (h.coherent.wide holder number h.owns), fun id' hid' hst => ?_⟩
    obtain rfl := Option.some.inj (hid.symm.trans hid')
    exact hreplies.answer hst
  · obtain ⟨-, rfl⟩ := Prod.mk.inj (hout.symm.trans heq)
    refine ⟨.refl _, fun id hid _ => ?_⟩
    rw [hnone] at hid
    cases hid

end Gathers

theorem turnReady_judges {holder : Option String} (hturn : TurnsMember g wide rank bound holder ids turn)
    {number : Nat} (hholder : ∀ id, holder = some id → bound ≤ rank id) (w : Waker) (fuel left again : Nat) {s : Session W}
    (h : Gathers g wide holder number ids s) {r : Verdict × Session W}
    (hr : Group.turnReady turn w ids.length number fuel left again s = r) :
    Judges g wide rank bound ids s r := by
  induction fuel generalizing left again s with
  | zero =>
    subst hr
    exact .waits (.refl s)
  | succ fuel ih =>
    have hnext : ∀ {left again t}, Goes g wide rank bound false s t →
        Group.turnReady turn w ids.length number fuel left again t = r → Judges g wide rank bound ids s r :=
      fun hgoes ht => .after hgoes (ih _ _ (h.goes hholder hgoes) ht)
    rw [Group.turnReady] at hr
    split at hr
    · subst hr
      exact .waits (.refl s)
    · next c hc =>
      split at hr
      · subst hr
        exact verdict_judges (.refl s) nofun (h.agrees hc)
      · next place ready _ =>
        dsimp only at hr
        have hready : Goes g wide rank bound false s
            (reschedule s (·.alterCrowd number fun c => { c with ready })) := by
          have hquiet := s.shared.scheduler.quiet_alterCrowd number (f := fun c => { c with ready }) fun _ => rfl
          exact .of_move (.reschedules hquiet) (fun _ => rfl) rfl
        have hgathers := h.goes hholder hready
        split at hr
        · exact hnext hready hr
        · next halive =>
          have hregister : (s.shared.scheduler.alterCrowd number fun c => { c with ready }).register number =
              some c.register := by
            rw [Scheduler.register_alterCrowd_self, show s.shared.scheduler.crowd? number = some c from hc]
            rfl
          have hasking := hgathers.asking hregister (not_not.1 halive)
          cases hout : turn (.member number place) place
            (reschedule s (·.alterCrowd number fun c => { c with ready })) with
          | mk st t =>
            obtain ⟨hmember, hanswer⟩ := hgathers.member hturn hasking hout
            have ht := hready.trans hmember
            have hstruck := fun hst : st ≠ .waits =>
              ht.trans ((h.goes hholder ht).strike place hst (fun id hid => hanswer id hid hst) w)
            rw [hout] at hr
            cases st with
            | waits =>
              have hrotated := ht.trans ((h.goes hholder ht).rotate place)
              dsimp only at hr
              generalize (if Option.any _ _ = true then again + 1 else again) = again' at hr
              split at hr
              · subst hr
                exact .waits (hrotated.trans (.of_move (.reschedules (Scheduler.quiet_wake _ w))
                  (fun _ => rfl) rfl))
              · exact hnext hrotated hr
            | ended | failed =>
              have hstruck := hstruck nofun
              dsimp only at hr
              split at hr
              · subst hr
                exact .waits hstruck
              · next c' hc' =>
                have hjudges := verdict_judges hstruck nofun ((h.goes hholder hstruck).agrees hc')
                split at hr
                · exact hnext hstruck hr
                · subst hr
                  exact hjudges

theorem turn_judges {holder : Option String} (hturn : TurnsMember g wide rank bound holder ids turn) {group : Group}
    (hholder : ∀ id, holder = some id → bound ≤ rank id) (w : Waker) {s : Session W} (hs : Coherent g wide s)
    (hgroup : s.group? holder = some group) (hids : wanted g s.call holder = ids) :
    Judges g wide rank bound ids s (group.turn turn w s) := by
  have hsize := hs.size holder group hgroup
  obtain ⟨size, crowd⟩ := group
  rw [hids] at hsize
  subst hsize
  cases crowd with
  | none =>
    obtain ⟨hgoes, hended, hfailed⟩ := turnInOrder_judges hturn hholder w (List.range ids.length) true hs hgroup
      hids rfl
    refine ⟨hgoes, fun h id hid => ?_, hfailed⟩
    obtain ⟨place, hlt, rfl⟩ := List.getElem_of_mem hid
    exact (hended h).2 place (List.mem_range.2 hlt) _ (List.getElem?_eq_getElem hlt)
  | some number =>
    have hcaller : Goes g wide rank bound false s
        (reschedule s (·.alterCrowd number fun c => { c with caller := some w })) := by
      have hquiet := s.shared.scheduler.quiet_alterCrowd number
        (f := fun c => { c with caller := some w }) fun _ => rfl
      exact .of_move (.reschedules hquiet) (fun _ => rfl) rfl
    have hgathers : Gathers g wide holder number ids s := ⟨hs, ⟨_, hgroup⟩, hids⟩
    exact .after hcaller (turnReady_judges hturn hholder w _ _ 0 (hgathers.goes hholder hcaller) rfl)

/-- A group that is forgotten when everything it wants is settled leaves the nodes as they are. -/
theorem close_goes (wide : Prop) (rank : String → Nat) (bound : Nat) {s : Session W} {holder : Option String}
    {group : Group} (hgroup : s.group? holder = some group)
    (hsettled : ∀ id ∈ wanted g s.call holder, s.standing id ≠ .waits) :
    Goes g wide rank bound false s (group.close s) ∧ ∀ x, (group.close s).stage x = s.stage x := by
  obtain ⟨size, crowd⟩ := group
  cases crowd with
  | none => exact ⟨.refl s, fun _ => rfl⟩
  | some number =>
    refine ⟨.of_move (.notes ⟨size, hgroup⟩ rfl (Nat.le_refl _)
      (fun n hn => Scheduler.register_closeCrowd_of_ne _ hn) (fun register h => ?_) fun _ => .inr hsettled)
      (fun _ => rfl) rfl, fun _ => rfl⟩
    rw [Scheduler.register_closeCrowd_self] at h
    cases h

end

theorem Graph.exists_node {g : Graph W} {id : String} (h : id ∈ g.nodes.map Node.id) :
    ∃ n, g.node? id = some n := by
  cases hn : g.node? id with
  | none => exact absurd h (Graph.findNode_eq_none_iff.1 hn)
  | some n => exact ⟨n, rfl⟩

section

variable {g : Graph W} {wide : Prop} {rank : String → Nat} {n : Node W} {s t : Session W}

theorem known_dependency (hn : g.node? n.id = some n) {d : String}
    (hd : d ∈ n.dependencies.map Dependency.node) : ∃ m, g.node? d = some m :=
  Graph.exists_node ((Graph.sound_of_error? g.valid).edge_mem (edge_dependency hn hd))

theorem known_failover (hn : g.node? n.id = some n) {failover : String} (hf : n.failover = some failover) :
    ∃ m, g.node? failover = some m :=
  Graph.exists_node ((Graph.sound_of_error? g.valid).edge_mem (edge_failover hn hf))

/-- Asking for a node of small enough rank is a turn of that node. -/
def Asks (g : Graph W) (wide : Prop) (rank : String → Nat) (ask : Ask W) (bound : Nat) : Prop :=
  ∀ w asker id s, rank id < bound → (∃ n, g.node? id = some n) → Coherent g wide s → Asking g s asker id →
    Replies g wide rank (rank id + 1) id s (ask w asker id s)

theorem Asks.turnsMember {ask : Ask W} {bound : Nat} (hask : Asks g wide rank ask bound) (ids : List String)
    (hids : ∀ id ∈ ids, rank id < bound ∧ ∃ n, g.node? id = some n) (owner : Option String) :
    TurnsMember g wide rank bound owner ids (askAt ask owner ids) := by
  intro w place s hs hasking
  unfold askAt
  cases hid : ids[place]? with
  | none => exact .inr ⟨rfl, rfl⟩
  | some id =>
    obtain ⟨hlt, hknown⟩ := hids id (List.mem_of_getElem? hid)
    exact .inl ⟨id, rfl, (hask w _ id s hlt hknown hs (hasking id hid)).weaken hlt⟩

/-- A settled node is what its turn ends with, whatever was done for it before. -/
theorem spares_conclude {es : List Event} (hspares : Spares es s t) {o : Outcome}
    (hmove : Move g (decide (o.standing = .failed)) s (t.settle n.id o)) :
    Replies g wide rank (rank n.id + 1) n.id s (Pursuit.conclude n.id o t) :=
  .conclude .refl nofun hmove (fun x _ => Session.stage_of_spares hspares x)
    (by rw [hspares.call])

variable {p : Pursuit W}

theorem recover_replies (hrank : Ranks g rank) (hask : Asks g wide rank p.ask (rank n.id))
    (hn : g.node? n.id = some n) {failover : String} (hf : n.failover = some failover)
    (hs : Coherent g wide s) {e : ResolutionError} (hstage : s.stage n.id = .evaluated p.asker (.recovering e)) :
    Replies g wide rank (rank n.id + 1) n.id s (p.recover n failover s) := by
  have hlt := hrank.failover hn hf
  have hreplies := hask p.waker ⟨some n.id, n.dependencies.length⟩ failover s hlt (known_failover hn hf) hs
    (.failover hn hf hstage)
  rw [Pursuit.recover]
  generalize p.ask p.waker ⟨some n.id, n.dependencies.length⟩ failover s = out at hreplies
  obtain ⟨st, t⟩ := out
  have hkept : t.stage n.id = .evaluated p.asker (.recovering e) :=
    (hreplies.goes.above n.id (by omega)).trans hstage
  have habove : ∀ x, rank n.id + 1 ≤ rank x → t.stage x = s.stage x := fun x hx =>
    hreplies.goes.above x (by omega)
  cases st with
  | waits => exact .waits (hreplies.goes.weaken (by omega))
  | ended =>
    exact .conclude hreplies.goes.moves nofun (.adopts hn hf hkept (hreplies.answer nofun)) habove
      hreplies.goes.begun
  | failed =>
    have hfalls : Falls g t (t.settle n.id (.failed (t.failure failover))) :=
      .givesUp hn hf hkept (hreplies.answer nofun)
    exact .conclude hreplies.goes.moves (fun _ => ⟨rfl, hfalls⟩) (.falls hfalls) habove hreplies.goes.begun

theorem attempted_replies (hrank : Ranks g rank) (hask : Asks g wide rank p.ask (rank n.id))
    (hs : Coherent g wide s) {r : Except ResolutionError AttributeMap}
    (h : Attempted g p.asker n r s (t.record (.own t.call.number n.id r))) :
    Replies g wide rank (rank n.id + 1) n.id s (p.attempted n r t) := by
  unfold Pursuit.attempted
  dsimp only
  generalize t.record (.own t.call.number n.id r) = t at h ⊢
  obtain ⟨es, hstretch⟩ := h.stretch
  have hspares := hstretch.spares
  cases r with
  | ok m => exact spares_conclude hspares (.succeeds h)
  | error e =>
    dsimp only
    cases hf : n.failover with
    | none =>
      cases hpropagates : n.propagatesErrors with
      | true => exact spares_conclude hspares (.breaks h hf hpropagates)
      | false => exact spares_conclude hspares (.isSpared h hf hpropagates)
    | some failover =>
      have hmove : Move g false s (t.setPhase n.id p.asker (.recovering e)) := .turnsOver h hf
      have hself := t.stage_setPhase n.id p.asker (.recovering e)
      exact .after (.of_setPhase (hspares.alters n.id) rfl hmove)
        (recover_replies hrank hask h.node hf (hs.move hmove) hself)

theorem goOnFetching_replies {c : ConnectorNode W} (hrank : Ranks g rank)
    (hask : Asks g wide rank p.ask (rank c.id)) (hs : Coherent g wide s)
    {fetch : Strand W (Except ConnectorError AttributeMap)} {limit : Alarm}
    (h : Underway g p.asker p.waker c s fetch limit t) :
    Replies g wide rank (rank c.id + 1) c.id s (p.goOnFetching c fetch limit t) := by
  rw [Pursuit.goOnFetching]
  cases hout : Pursuit.fetchOn p.asker p.waker c fetch limit t with
  | mk r u =>
    cases r with
    | none =>
      obtain ⟨es, t', fetch', limit', hstretch, rfl⟩ := h.waits hout
      exact .waits (.of_setPhase (hstretch.spares.alters c.id) rfl (.fetches h hout))
    | some r => exact attempted_replies (n := .connector c) hrank hask hs (.fetched h hout)

theorem beginFetch_replies {c : ConnectorNode W} (hrank : Ranks g rank)
    (hask : Asks g wide rank p.ask (rank c.id)) (hs : Coherent g wide s)
    (hn : g.node? c.id = some (.connector c)) {phase : Phase W}
    (hstage : s.stage c.id = .evaluated p.asker phase) (hearly : phase.isEarly = true)
    (hsupplied : Supplied g s c.id) :
    Replies g wide rank (rank c.id + 1) c.id s (p.beginFetch c s) := by
  rw [Pursuit.beginFetch]
  have hspares := s.spares_takePermit c.id p.waker
  cases hpermit : s.takePermit c.id p.waker with
  | mk passage t =>
    rw [hpermit] at hspares
    cases passage with
    | enters => exact goOnFetching_replies hrank hask hs (.begins hn hstage hearly hsupplied hpermit)
    | waits =>
      exact .waits (.of_setPhase (hspares.alters c.id) rfl (.queues hn hstage hearly hsupplied hpermit))
    | excused => exact absurd rfl ((Session.takePermit_attempt hpermit).2.ne_excused hs.opened)

theorem evaluate_replies (hrank : Ranks g rank) (hask : Asks g wide rank p.ask (rank n.id)) (hp : p.graph = g)
    (hs : Coherent g wide s) (hn : g.node? n.id = some n) {group : Group}
    (hstage : s.stage n.id = .evaluated p.asker (.joining group)) (hsupplied : Supplied g s n.id) :
    Replies g wide rank (rank n.id + 1) n.id s (p.evaluate n s) := by
  cases n with
  | definition d =>
    subst hp
    exact attempted_replies (n := .definition d) hrank hask hs (.computed hn hstage hsupplied)
  | connector c => exact beginFetch_replies hrank hask hs hn hstage rfl hsupplied

theorem join_replies (hrank : Ranks g rank) (hask : Asks g wide rank p.ask (rank n.id)) (hp : p.graph = g)
    (hs : Coherent g wide s) (hn : g.node? n.id = some n) {group : Group}
    (hstage : s.stage n.id = .evaluated p.asker (.joining group)) :
    Replies g wide rank (rank n.id + 1) n.id s (p.join n group s) := by
  have hids : wanted g s.call (some n.id) = n.dependencies.map Dependency.node := wanted_node s.call hn
  have hmembers := hask.turnsMember (n.dependencies.map Dependency.node)
    (fun d hd => ⟨hrank.dependency hn hd, known_dependency hn hd⟩) (some n.id)
  have hjudges := turn_judges hmembers (fun id hid => by rw [Option.some.inj hid]) p.waker hs
    (Session.group?_node hstage) hids
  rw [Pursuit.join]
  dsimp only
  generalize group.turn (askAt p.ask (some n.id) (n.dependencies.map Dependency.node)) p.waker s = out at hjudges
  obtain ⟨verdict, t⟩ := out
  obtain ⟨⟨fails, hgoes, hfails⟩, hended, hfailed⟩ := hjudges
  have hkept : t.stage n.id = .evaluated p.asker (.joining group) :=
    (hgoes.above n.id (Nat.le_refl _)).trans hstage
  have ht := hgoes.moves.coherent hs
  have hfalse : (∀ place, verdict ≠ .failed place) → Goes g wide rank (rank n.id) false s t := by
    intro hne
    cases fails with
    | false => exact hgoes
    | true =>
      obtain ⟨place, hplace⟩ := hfails rfl
      exact absurd hplace (hne place)
  cases verdict with
  | waits => exact .waits ((hfalse nofun).weaken (Nat.le_succ _))
  | ended =>
    have hsettled : ∀ d ∈ wanted g t.call (some n.id), t.standing d ≠ .waits := by
      intro d hd
      rw [hgoes.moves.wanted, hids] at hd
      rw [hended rfl d hd]
      exact nofun
    obtain ⟨hclose, hstages⟩ := close_goes wide rank (rank n.id) (Session.group?_node hkept) hsettled
    have hall := (hfalse nofun).trans hclose
    refine .after (hall.weaken (Nat.le_succ _)) (evaluate_replies hrank hask hp (hclose.moves.coherent ht) hn
      ((hstages n.id).trans hkept) fun d hd => ?_)
    rw [hall.moves.wanted, hids] at hd
    rw [Session.standing_eq_standing (hstages d)]
    exact hended rfl d hd
  | failed place =>
    obtain ⟨d, hplace, hdfailed⟩ := hfailed place rfl
    have hfailure : t.failureAt (n.dependencies.map Dependency.node) place = t.failure d := by
      rw [Session.failureAt, hplace, Option.getD_some]
    subst hp
    have hmember : ∀ asker d s, d ∈ n.dependencies.map Dependency.node →
        DropsBelow rank (rank n.id) none s (dismiss p.graph (levels p.graph) asker d s) := by
      intro asker d s hd
      have hlt := hrank.dependency hn hd
      have hdismiss := dismiss_drops hrank (levels p.graph) asker d s
      exact ⟨hdismiss.toDrops, fun x hx => hdismiss.above x (by omega)⟩
    have hdrops := DropsBelow.disband group (dismissAt_drops hmember (some n.id)) t
    have hfalls : Falls p.graph t (Session.settle (group.disband (dismissAt (dismiss p.graph (levels p.graph))
        (some n.id) (n.dependencies.map Dependency.node)) t) n.id
        (.failed (t.failureAt (n.dependencies.map Dependency.node) place))) := by
      rw [hfailure]
      refine .follows hn hkept ?_ hdfailed hdrops.toDrops (hdrops.above n.id (Nat.le_refl _)) ?_
      · rw [hgoes.moves.wanted, hids]
        exact List.mem_of_getElem? hplace
      · rw [hgoes.moves.wanted, hids]
    refine .conclude hgoes.moves (fun _ => ⟨rfl, hfalls⟩) (.falls hfalls) (fun x hx => ?_) ?_
    · exact (hdrops.above x (by omega)).trans (hgoes.above x (by omega))
    · exact (congrArg Call.begun hdrops.call).trans hgoes.begun

theorem start_replies (hrank : Ranks g rank) (hask : Asks g wide rank p.ask (rank n.id)) (hp : p.graph = g)
    (hs : Coherent g wide s) (hn : g.node? n.id = some n) (hasking : Asking g s p.asker n.id)
    (henter : s.enterCell n.id p.asker p.waker = (.enters, t)) :
    Replies g wide rank (rank n.id + 1) n.id s (p.start n t) := by
  rw [Pursuit.start]
  cases hstart : Group.start n.dependencies.length t with
  | mk group u =>
    have hmove : Move g false s (u.setPhase n.id p.asker (.joining group)) :=
      .enters hn henter hstart hasking
    have hself := u.stage_setPhase n.id p.asker (.joining group)
    obtain ⟨hcall, -, -⟩ := opens_start hstart
    have halters := s.alters_enterCell n.id p.asker p.waker
    rw [henter] at halters
    exact .after (.of_setPhase halters hcall hmove) (join_replies hrank hask hp (hs.move hmove) hn hself)

/-- Whoever does not come through the gate changes nothing that lasts. -/
theorem enterCell_goes (hs : Coherent g wide s) {id : String} {asker : Asker} {w : Waker}
    {passage : Gate.Passage} (h : s.enterCell id asker w = (passage, t)) (hpassage : passage ≠ .enters)
    (hother : ∀ phase, s.stage id ≠ .evaluated asker phase) (hasking : Asking g s asker id) (bound : Nat) :
    Goes g wide rank bound false s t := by
  obtain ⟨gate, hattempt, hcell⟩ := s.enterCell_attempt id asker w
  have halters := s.alters_enterCell id asker w
  have hpermits : (s.enterCell id asker w).2.shared.permits = s.shared.permits := rfl
  rw [h] at hattempt hcell halters hpermits
  have hstage : ∀ x, t.stage x = s.stage x := by
    intro x
    by_cases hx : x = id
    · subst hx
      rw [Session.stage, hcell]
    · exact Session.stage_of_alters halters hx
  refine .of_move (.rests (by rw [halters.call]) (by rw [halters.call]) hstage (fun x hx => ?_) halters.quiet
    halters.log hpermits fun x a ha => ?_) hstage (by rw [halters.call])
  · by_cases hxid : x = id
    · subst hxid
      rw [hcell]
      exact (hs.fits x).waits hattempt hpassage hother
    · exact halters.cell x hxid ▸ hx
  · by_cases hxid : x = id
    · subst hxid
      rw [hcell] at ha
      exact (hattempt.mem_waiting ha).imp_right fun hself : a = asker => hself ▸ hasking
    · exact .inl (halters.cell x hxid ▸ ha)

theorem carryOn_replies (hrank : Ranks g rank) (hask : Asks g wide rank p.ask (rank n.id)) (hp : p.graph = g)
    (hs : Coherent g wide s) (hn : g.node? n.id = some n) {phase : Phase W}
    (hstage : s.stage n.id = .evaluated p.asker phase) :
    Replies g wide rank (rank n.id + 1) n.id s (p.carryOn n phase s) := by
  cases phase with
  | joining group => exact join_replies hrank hask hp hs hn hstage
  | queued =>
    cases n with
    | definition d => exact .waits (.refl s)
    | connector c =>
      exact beginFetch_replies hrank hask hs hn hstage rfl (hs.supplied _ _ _ hstage rfl)
  | fetching fetch limit =>
    cases n with
    | definition d => exact .waits (.refl s)
    | connector c => exact goOnFetching_replies hrank hask hs (.goesOn hn hstage)
  | recovering e =>
    cases n with
    | definition d => exact .waits (.refl s)
    | connector c =>
      rw [Pursuit.carryOn]
      cases hf : c.failover with
      | none => exact .waits (.refl s)
      | some failover =>
        exact recover_replies (n := .connector c) hrank hask hn hf hs hstage

/-- An asker that comes to a cell is answered, whether it begins the node's evaluation, waits for its turn
or is told what has become of it. -/
theorem enter_replies (hrank : Ranks g rank) (hask : Asks g wide rank p.ask (rank n.id)) (hp : p.graph = g)
    (hs : Coherent g wide s) (hn : g.node? n.id = some n) (hasking : Asking g s p.asker n.id)
    (hother : ∀ phase, s.stage n.id ≠ .evaluated p.asker phase) :
    Replies g wide rank (rank n.id + 1) n.id s
      (match s.enterCell n.id p.asker p.waker with
      | (.waits, s) => (.waits, s)
      | (.enters, s) => p.start n s
      | (.excused, s) => (s.standing n.id, s)) := by
  cases hpassage : s.enterCell n.id p.asker p.waker with
  | mk passage t =>
    cases passage with
    | waits => exact .waits (enterCell_goes hs hpassage (by simp) hother hasking _)
    | enters => exact start_replies hrank hask hp hs hn hasking hpassage
    | excused => exact .settled (enterCell_goes hs hpassage (by simp) hother hasking _) rfl rfl

theorem ask_replies (wide : Prop) (hrank : Ranks g rank) (levels : Nat) :
    Asks g wide rank (ask g levels) levels := by
  induction levels with
  | zero => exact fun _ _ id _ hlt => absurd hlt (Nat.not_lt_zero _)
  | succ levels ih =>
    rintro w asker id s hlt ⟨n, hn⟩ hs hasking
    obtain ⟨-, rfl⟩ := Graph.findNode_some hn
    have hask : Asks g wide rank (ask g levels) (rank n.id) := fun w asker x s hx hknown hs =>
      ih w asker x s (by omega) hknown hs
    have henter := enter_replies (p := ⟨g, ask g levels, asker, w⟩) hrank hask rfl hs hn hasking
    rw [ask, hn]
    dsimp only
    split
    · next hknows =>
      refine henter fun phase hstage => ?_
      exact ((hs.fits n.id).evaluated hstage).2.2.2 (Gate.knows_iff.1 hknows)
    · split
      · next hidle =>
        refine henter fun phase hstage => ?_
        cases hidle.symm.trans hstage
      · next first phase hstage =>
        split
        · next hfirst =>
          subst hfirst
          exact carryOn_replies (p := ⟨g, ask g levels, first, w⟩) hrank hask rfl hs hn hstage
        · next hfirst =>
          refine henter fun phase' hstage' => hfirst ?_
          cases hstage.symm.trans hstage'
          rfl
      · next o hstage => exact .settled (.refl s) (Session.standing_of_settled hstage) rfl

end

end Resolver

end AttributeRelease
