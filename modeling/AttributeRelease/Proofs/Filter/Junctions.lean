import AttributeRelease.Filter.Requirement

/-!
What `and`, `or` and `not` make of answers. Matchers and requirements combine answers in the same way: one after the
other, up to the first that settles the matter or fails. As only the answers count here, the laws are stated for lists
of them. They are those of truth values as far as these keep the order of what is asked.
-/

namespace AttributeRelease

open AttributeRelease.Filter (Context)

namespace Filter

/-- The answer of a matcher or a requirement. -/
abbrev Answer := Except FilterError Bool

/-- Whether all hold, up to the first that does not or fails. -/
def conj : List Answer → Answer
  | [] => .ok true
  | x :: rest => do if ← x then conj rest else return false

/-- Whether some holds, up to the first that does or fails. -/
def disj : List Answer → Answer
  | [] => .ok false
  | x :: rest => do if ← x then return true else disj rest

/-- The opposite answer; a failure remains. -/
def negate (x : Answer) : Answer := x.map (!·)

theorem negate_negate (x : Answer) : negate (negate x) = x := by
  cases x with
  | error e => rfl
  | ok b => cases b <;> rfl

theorem map_negate_negate (xs : List Answer) : (xs.map negate).map negate = xs := by
  simp [Function.comp_def, negate_negate]

theorem negate_conj (xs : List Answer) : negate (conj xs) = disj (xs.map negate) := by
  induction xs with
  | nil => rfl
  | cons x rest ih =>
    rw [List.map_cons, conj, disj, ← ih]
    cases x with
    | error e => rfl
    | ok b => cases b <;> rfl

theorem conj_append (xs ys : List Answer) : conj (xs ++ ys) = conj [conj xs, conj ys] := by
  induction xs with
  | nil =>
    rw [List.nil_append]
    rcases conj ys with _ | _ | _ <;> rfl
  | cons x rest ih =>
    rw [List.cons_append, conj, ih]
    cases x with
    | error e => rfl
    | ok b => cases b <;> rfl

-- another order is another answer
example (e : FilterError) : conj [.ok false, .error e] = .ok false ∧ conj [.error e, .ok false] = .error e :=
  ⟨rfl, rfl⟩

-- the laws of `disj` follow, as it is what `conj` makes of the opposite answers

theorem negate_disj (xs : List Answer) : negate (disj xs) = conj (xs.map negate) := by
  have h := negate_conj (xs.map negate)
  rw [map_negate_negate] at h
  rw [← h, negate_negate]

theorem disj_append (xs ys : List Answer) : disj (xs ++ ys) = disj [disj xs, disj ys] := by
  have hdisj : ∀ zs : List Answer, disj zs = negate (conj (zs.map negate)) := fun zs => by
    rw [← negate_disj, negate_negate]
  rw [hdisj (xs ++ ys), List.map_append, conj_append, negate_conj, List.map_cons, List.map_cons, List.map_nil,
    ← hdisj, ← hdisj]

end Filter

open AttributeRelease.Filter (conj disj negate)

namespace Matcher

variable (v : Value) (ctx : Context)

theorem testAll_eq (ms : List Matcher) : testAll v ctx ms = conj (ms.map (test v ctx)) := by
  induction ms with
  | nil => rfl
  | cons m rest ih => rw [testAll, List.map_cons, conj, ih]

theorem testAny_eq (ms : List Matcher) : testAny v ctx ms = disj (ms.map (test v ctx)) := by
  induction ms with
  | nil => rfl
  | cons m rest ih => rw [testAny, List.map_cons, disj, ih]

theorem test_and (ms : List Matcher) : test v ctx (.and ms) = conj (ms.map (test v ctx)) := by
  rw [test, testAll_eq]

theorem test_or (ms : List Matcher) : test v ctx (.or ms) = disj (ms.map (test v ctx)) := by
  rw [test, testAny_eq]

theorem test_not (m : Matcher) : test v ctx (.not m) = negate (test v ctx m) := by
  rw [test, negate]

end Matcher

namespace Requirement

variable (ctx : Context)

theorem someValue_eq (m : Matcher) (values : List Value) :
    someValue m ctx values = disj (values.map (m.test · ctx)) := by
  induction values with
  | nil => rfl
  | cons v rest ih => rw [someValue, List.map_cons, disj, ih]

theorem testAll_eq (qs : List Requirement) : testAll ctx qs = conj (qs.map (test ctx)) := by
  induction qs with
  | nil => rfl
  | cons q rest ih => rw [testAll, List.map_cons, conj, ih]

theorem testAny_eq (qs : List Requirement) : testAny ctx qs = disj (qs.map (test ctx)) := by
  induction qs with
  | nil => rfl
  | cons q rest ih => rw [testAny, List.map_cons, disj, ih]

theorem test_and (qs : List Requirement) : test ctx (.and qs) = conj (qs.map (test ctx)) := by
  rw [test, testAll_eq]

theorem test_or (qs : List Requirement) : test ctx (.or qs) = disj (qs.map (test ctx)) := by
  rw [test, testAny_eq]

theorem test_not (q : Requirement) : test ctx (.not q) = negate (test ctx q) := by
  rw [test, negate]

end Requirement

end AttributeRelease
