import AttributeRelease.Pairwise.Store

/-!
The course of a dialogue as a list of questions with their answers. A dialogue leaves open what it is told,
so what holds of all its courses holds whatever the backend is and whoever else asks it meanwhile. A store
without a fallback gives out an identifier only if it was told of it or has just inserted it, and it reports
a retirement only if the backend has just done so.
-/

namespace AttributeRelease.Pairwise

/-- A question and the answer to it, or something that a dialogue does for itself. -/
inductive Exchange where
  | found (pair : Pair) (answer : Except StoreError (Option String))
  | inserted (pair : Pair) (id : String) (answer : Except StoreError Unit)
  | deactivated (pair : Pair) (answer : Except StoreError Bool)
  | drew (id : String)
  | tossed (chance : Float)
  | slept (ms : Nat)

namespace Dialogue

variable {α β : Type}

/-- A dialogue goes on by one exchange. -/
inductive Step : Dialogue α → Exchange → Dialogue α → Prop
  | find {pair : Pair} {next : Except StoreError (Option String) → Dialogue α}
    (answer : Except StoreError (Option String)) : Step (.find pair next) (.found pair answer) (next answer)
  | insert {pair : Pair} {id : String} {next : Except StoreError Unit → Dialogue α}
    (answer : Except StoreError Unit) : Step (.insert pair id next) (.inserted pair id answer) (next answer)
  | deactivate {pair : Pair} {next : Except StoreError Bool → Dialogue α} (answer : Except StoreError Bool) :
    Step (.deactivate pair next) (.deactivated pair answer) (next answer)
  | draw {next : String → Dialogue α} (id : String) : Step (.draw next) (.drew id) (next id)
  | toss {next : Float → Dialogue α} (chance : Float) : Step (.toss next) (.tossed chance) (next chance)
  | sleep {ms : Nat} {next : Dialogue α} : Step (.sleep ms next) (.slept ms) next

/-- The exchanges by which a dialogue comes to another one. -/
inductive Path : Dialogue α → List Exchange → Dialogue α → Prop
  | nil (d : Dialogue α) : Path d [] d
  | cons {d d' d'' : Dialogue α} {x : Exchange} {xs : List Exchange} (h : d.Step x d') (hrest : Path d' xs d'') :
    Path d (x :: xs) d''

namespace Path

theorem snoc {d d' d'' : Dialogue α} {xs : List Exchange} {x : Exchange} (h : Path d xs d') (hstep : d'.Step x d'') :
    Path d (xs ++ [x]) d'' := by
  induction h with
  | nil => exact .cons hstep (.nil _)
  | cons hfirst _ ih => exact .cons hfirst (ih hstep)

/-- Nothing follows on the end of a dialogue. -/
theorem of_done {a : α} {d : Dialogue α} {xs : List Exchange} (h : Path (.done a) xs d) : xs = [] ∧ d = .done a := by
  cases h with
  | nil => exact ⟨rfl, rfl⟩
  | cons hstep => cases hstep

theorem bind {d d' : Dialogue α} {xs : List Exchange} (h : Path d xs d') (k : α → Dialogue β) :
    Path (d.bind k) xs (d'.bind k) := by
  induction h with
  | nil => exact .nil _
  | cons hstep _ ih =>
    cases hstep with
    | find answer => exact .cons (.find answer) ih
    | insert answer => exact .cons (.insert answer) ih
    | deactivate answer => exact .cons (.deactivate answer) ih
    | draw id => exact .cons (.draw id) ih
    | toss chance => exact .cons (.toss chance) ih
    | sleep => exact .cons .sleep ih

theorem congr_end {d d' d'' : Dialogue α} {xs : List Exchange} (h : Path d xs d') (heq : d' = d'') : Path d xs d'' :=
  heq ▸ h

/-- One dialogue after another ends when the second one does. -/
theorem bind_done {d : Dialogue α} {k : α → Dialogue β} {xs : List Exchange} {b : β}
    (h : Path (d.bind k) xs (.done b)) :
    ∃ ys zs a, xs = ys ++ zs ∧ Path d ys (.done a) ∧ Path (k a) zs (.done b) := by
  induction d generalizing xs with
  | done a => exact ⟨[], xs, a, rfl, .nil _, h⟩
  | find _ _ ih =>
    cases h with
    | cons hstep hrest =>
      cases hstep with
      | find answer =>
        obtain ⟨ys, zs, a, rfl, hfirst, hsecond⟩ := ih answer hrest
        exact ⟨_ :: ys, zs, a, rfl, .cons (.find answer) hfirst, hsecond⟩
  | insert _ _ _ ih =>
    cases h with
    | cons hstep hrest =>
      cases hstep with
      | insert answer =>
        obtain ⟨ys, zs, a, rfl, hfirst, hsecond⟩ := ih answer hrest
        exact ⟨_ :: ys, zs, a, rfl, .cons (.insert answer) hfirst, hsecond⟩
  | deactivate _ _ ih =>
    cases h with
    | cons hstep hrest =>
      cases hstep with
      | deactivate answer =>
        obtain ⟨ys, zs, a, rfl, hfirst, hsecond⟩ := ih answer hrest
        exact ⟨_ :: ys, zs, a, rfl, .cons (.deactivate answer) hfirst, hsecond⟩
  | draw _ ih =>
    cases h with
    | cons hstep hrest =>
      cases hstep with
      | draw id =>
        obtain ⟨ys, zs, a, rfl, hfirst, hsecond⟩ := ih id hrest
        exact ⟨_ :: ys, zs, a, rfl, .cons (.draw id) hfirst, hsecond⟩
  | toss _ ih =>
    cases h with
    | cons hstep hrest =>
      cases hstep with
      | toss chance =>
        obtain ⟨ys, zs, a, rfl, hfirst, hsecond⟩ := ih chance hrest
        exact ⟨_ :: ys, zs, a, rfl, .cons (.toss chance) hfirst, hsecond⟩
  | sleep ms _ ih =>
    cases h with
    | cons hstep hrest =>
      cases hstep with
      | sleep =>
        obtain ⟨ys, zs, a, rfl, hfirst, hsecond⟩ := ih hrest
        exact ⟨_ :: ys, zs, a, rfl, .cons .sleep hfirst, hsecond⟩

end Path

end Dialogue

open Dialogue (Path)

/-! ### What stores come to -/

/-- Somebody was told that an identifier is the active one of a pair, or made it so. -/
def Adopts (pair : Pair) (id : String) (xs : List Exchange) : Prop :=
  .found pair (.ok (some id)) ∈ xs ∨ .inserted pair id (.ok ()) ∈ xs

theorem Adopts.mono {pair : Pair} {id : String} {xs ys : List Exchange} (h : Adopts pair id xs) (hsub : xs ⊆ ys) :
    Adopts pair id ys :=
  h.imp (fun h => hsub h) fun h => hsub h

/-- The backend failed when it was asked about a pair. -/
def Fails (pair : Pair) (e : StoreError) (xs : List Exchange) : Prop :=
  .found pair (.error e) ∈ xs ∨ ∃ id, .inserted pair id (.error e) ∈ xs

/-- What an attempt comes to, and by what. -/
inductive RestsOn (pair : Pair) (xs : List Exchange) : Except StoreError String → Prop
  | adopted {id : String} (h : Adopts pair id xs) : RestsOn pair xs (.ok id)
  | failed {e : StoreError} (h : Fails pair e xs) : RestsOn pair xs (.error e)
  | exhausted : RestsOn pair xs (.error Store.exhausted)

theorem RestsOn.mono {pair : Pair} {r : Except StoreError String} {xs ys : List Exchange} (h : RestsOn pair xs r)
    (hsub : xs ⊆ ys) : RestsOn pair ys r := by
  cases h with
  | adopted h => exact .adopted (h.mono hsub)
  | failed h => exact .failed (h.imp (fun h => hsub h) fun ⟨id, h⟩ => ⟨id, hsub h⟩)
  | exhausted => exact .exhausted

theorem allocate_restsOn {pair : Pair} (candidate : Dialogue String) (tries : Nat) {xs : List Exchange}
    {r : Except StoreError String} (h : Path (Store.allocate pair candidate tries) xs (.done r)) :
    RestsOn pair xs r := by
  induction tries generalizing candidate xs with
  | zero =>
    cases h.of_done.2
    exact .exhausted
  | succ tries ih =>
    rw [Store.allocate] at h
    obtain ⟨ys, zs, drawn, rfl, -, hrest⟩ := h.bind_done
    cases hrest with
    | cons hstep hrest =>
      cases hstep with
      | insert answer =>
        cases answer with
        | ok u =>
          cases hrest.of_done.2
          exact .adopted (.inr (by simp))
        | error e =>
          by_cases hkind : e.kind = .duplicate
          · simp only [hkind, if_true] at hrest
            cases hrest with
            | cons hstep hrest =>
              cases hstep with
              | find answer =>
                rcases answer with e | _ | held
                · cases hrest.of_done.2
                  exact .failed (.inl (by simp))
                · exact (ih _ hrest).mono fun x hx => by simp [hx]
                · cases hrest.of_done.2
                  exact .adopted (.inl (by simp))
          · simp only [hkind, if_false] at hrest
            cases hrest.of_done.2
            exact .failed (.inr ⟨drawn, by simp⟩)

theorem getOnce_restsOn {s : Store} {pair : Pair} {xs : List Exchange} {r : Except StoreError String}
    (h : Path (s.getOnce pair) xs (.done r)) : RestsOn pair xs r := by
  rw [Store.getOnce] at h
  cases h with
  | cons hstep hrest =>
    cases hstep with
    | find answer =>
      rcases answer with e | _ | held
      · cases hrest.of_done.2
        exact .failed (.inl (by simp))
      · exact (allocate_restsOn _ _ hrest).mono fun x hx => by simp [hx]
      · cases hrest.of_done.2
        exact .adopted (.inl (by simp))

/-- The exchanges by which the delay after a number of failed attempts before the last one is waited for. -/
inductive RetryPolicy.Pauses (p : RetryPolicy) (earlier : Nat) : List Exchange → Prop
  | steady (h : p.jitter = false) : Pauses p earlier [.slept (p.delay earlier)]
  | spread (h : p.jitter = true) (chance : Float) :
    Pauses p earlier [.tossed chance, .slept (p.spreadDelay chance earlier)]

theorem RetryPolicy.pauses_of_path {α : Type} {p : RetryPolicy} {earlier : Nat} {next : Dialogue α}
    {xs : List Exchange} {a : α} (h : Path (p.pause earlier next) xs (.done a)) :
    ∃ wait rest, xs = wait ++ rest ∧ p.Pauses earlier wait ∧ Path next rest (.done a) := by
  rw [RetryPolicy.pause] at h
  cases hjitter : p.jitter with
  | false =>
    simp only [hjitter, Bool.false_eq_true, if_false] at h
    cases h with
    | cons hstep hrest =>
      cases hstep with
      | sleep => exact ⟨[_], _, rfl, .steady hjitter, hrest⟩
  | true =>
    simp only [hjitter, if_true] at h
    cases h with
    | cons hstep hrest =>
      cases hstep with
      | toss chance =>
        cases hrest with
        | cons hstep hrest =>
          cases hstep with
          | sleep => exact ⟨[_, _], _, rfl, .spread hjitter chance, hrest⟩

/-- What is tried again ends as the last attempt does. -/
theorem retryFrom_last {α : Type} (p : RetryPolicy) (body : Dialogue (Except StoreError α)) (earlier more : Nat)
    {xs : List Exchange} {r : Except StoreError α} (h : Path (p.retryFrom body earlier more) xs (.done r)) :
    ∃ before last, xs = before ++ last ∧ Path body last (.done r) := by
  induction more generalizing earlier xs with
  | zero => exact ⟨[], xs, rfl, h⟩
  | succ more ih =>
    rw [RetryPolicy.retryFrom] at h
    obtain ⟨ys, zs, first, rfl, hbody, hrest⟩ := h.bind_done
    cases first with
    | ok a =>
      obtain ⟨hnil, hdone⟩ := hrest.of_done
      cases hdone
      exact ⟨[], ys, by simp [hnil], hbody⟩
    | error e =>
      by_cases hpass : p.isRetryable e
      · simp only [hpass, if_true] at hrest
        obtain ⟨wait, rest, rfl, -, hrest⟩ := RetryPolicy.pauses_of_path hrest
        obtain ⟨before, last, rfl, hlast⟩ := ih _ hrest
        exact ⟨ys ++ wait ++ before, last, by simp, hlast⟩
      · simp only [hpass] at hrest
        obtain ⟨hnil, hdone⟩ := hrest.of_done
        cases hdone
        exact ⟨[], ys, by simp [hnil], hbody⟩

theorem retry_restsOn {s : Store} {pair : Pair} {xs : List Exchange} {r : Except StoreError String}
    (h : Path (s.retry.retry (s.getOnce pair)) xs (.done r)) : RestsOn pair xs r := by
  obtain ⟨before, last, rfl, hlast⟩ := retryFrom_last s.retry _ _ _ h
  exact (getOnce_restsOn hlast).mono fun x hx => by simp [hx]

/-- A store gives out what it was told of or has inserted, or, after a failure that might pass, what its fallback
computes. -/
theorem get_cases {s : Store} {pair : Pair} {xs : List Exchange} {id : String}
    (h : Path (s.get pair) xs (.done (.ok id))) :
    Adopts pair id xs ∨ ∃ g e, s.fallback = some g ∧ id = g.generate pair ∧ s.retry.isRetryable e = true ∧
      Path (s.retry.retry (s.getOnce pair)) xs (.done (.error e)) := by
  rw [Store.get] at h
  obtain ⟨ys, zs, r, rfl, hretry, hrest⟩ := h.bind_done
  cases r with
  | ok id' =>
    cases hrest.of_done.2
    cases retry_restsOn hretry with
    | adopted hadopts => exact .inl (hadopts.mono fun x hx => by simp [hx])
  | error e =>
    cases hpass : s.retry.isRetryable e with
    | false =>
      simp only [hpass] at hrest
      cases hrest.of_done.2
    | true =>
      cases hfallback : s.fallback with
      | none =>
        simp only [hpass, hfallback] at hrest
        cases hrest.of_done.2
      | some g =>
        simp only [hpass, hfallback] at hrest
        obtain ⟨rfl, hdone⟩ := hrest.of_done
        cases hdone
        exact .inr ⟨g, e, rfl, rfl, hpass, by simpa using hretry⟩

/-- Whoever fails to the end in a way that might pass is served by the fallback. -/
theorem get_fallback {s : Store} {g : Generator} (hfallback : s.fallback = some g) {pair : Pair} {xs : List Exchange}
    {e : StoreError} (hpass : s.retry.isRetryable e = true)
    (h : Path (s.retry.retry (s.getOnce pair)) xs (.done (.error e))) :
    Path (s.get pair) xs (.done (.ok (g.generate pair))) := by
  rw [Store.get]
  refine (h.bind _).congr_end ?_
  simp only [Dialogue.bind, hpass, hfallback]

/-- A store without a fallback gives out only what it was told of or has inserted. -/
theorem get_adopts {s : Store} (hfallback : s.fallback = none) {pair : Pair} {xs : List Exchange} {id : String}
    (h : Path (s.get pair) xs (.done (.ok id))) : Adopts pair id xs := by
  rcases get_cases h with hadopts | ⟨g, e, hg, -⟩
  · exact hadopts
  · rw [hfallback] at hg
    cases hg

/-- A store reports a retirement only when the backend has just done so. -/
theorem deactivate_ok {s : Store} {pair : Pair} {xs : List Exchange} {retired : Bool}
    (h : Path (s.deactivate pair) xs (.done (.ok retired))) :
    ∃ before, xs = before ++ [.deactivated pair (.ok retired)] := by
  obtain ⟨before, last, rfl, hlast⟩ := retryFrom_last s.retry _ _ _ h
  cases hlast with
  | cons hstep hrest =>
    cases hstep with
    | deactivate answer =>
      obtain ⟨hnil, hdone⟩ := hrest.of_done
      cases hdone
      exact ⟨before, by rw [hnil]⟩

end AttributeRelease.Pairwise
