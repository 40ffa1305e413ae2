import AttributeRelease.Proofs.Filter.Answers

/-!
Laws of the connectives. With tests that may fail there are three outcomes, and what is asked first counts; the order
in which `and` and `or` ask is not free. But negations can be moved through them, and parts of them be bundled: what
is asked then, and in which order, remains. Such a change at any depth of a matcher or a requirement changes no answer,
so a filter releases and reports the same after any number of them.
-/

namespace AttributeRelease

open AttributeRelease.Filter (Context Answer conj disj negate)

namespace Filter

/-- How tests of one kind are combined. -/
structure Connectives (α : Type) where
  and : List α → α
  or : List α → α
  not : α → α

/-- The two sides of a law. -/
inductive Law {α : Type} (c : Connectives α) : α → α → Prop
  | notAnd (xs : List α) : Law c (c.not (c.and xs)) (c.or (xs.map c.not))
  | notOr (xs : List α) : Law c (c.not (c.or xs)) (c.and (xs.map c.not))
  | notNot (x : α) : Law c (c.not (c.not x)) x
  | andAppend (xs ys : List α) : Law c (c.and (xs ++ ys)) (c.and [c.and xs, c.and ys])
  | orAppend (xs ys : List α) : Law c (c.or (xs ++ ys)) (c.or [c.or xs, c.or ys])

/-- One test is made from another by replacements at any depth, any number of them and in either direction, where
`top` are the two sides of a single one. -/
inductive Replaces {α : Type} (c : Connectives α) (top : α → α → Prop) : α → α → Prop
  | top {x y : α} (h : top x y) : Replaces c top x y
  | refl (x : α) : Replaces c top x x
  | symm {x y : α} (h : Replaces c top x y) : Replaces c top y x
  | trans {x y z : α} (h : Replaces c top x y) (h' : Replaces c top y z) : Replaces c top x z
  | and (before after : List α) {x y : α} (h : Replaces c top x y) :
    Replaces c top (c.and (before ++ x :: after)) (c.and (before ++ y :: after))
  | or (before after : List α) {x y : α} (h : Replaces c top x y) :
    Replaces c top (c.or (before ++ x :: after)) (c.or (before ++ y :: after))
  | not {x y : α} (h : Replaces c top x y) : Replaces c top (c.not x) (c.not y)

/-- What is combined is answered by what the parts answer. -/
structure Connectives.AnsweredBy {α : Type} (c : Connectives α) (answer : α → Answer) : Prop where
  and : ∀ xs, answer (c.and xs) = conj (xs.map answer)
  or : ∀ xs, answer (c.or xs) = disj (xs.map answer)
  not : ∀ x, answer (c.not x) = negate (answer x)

section AnsweredBy

variable {α : Type} {c : Connectives α} {answer : α → Answer} (hc : c.AnsweredBy answer)
include hc

theorem Connectives.AnsweredBy.map_not (xs : List α) : (xs.map c.not).map answer = (xs.map answer).map negate := by
  rw [List.map_map, List.map_map]
  exact List.map_congr_left fun x _ => hc.not x

/-- Both sides of a law come to the same answer, be it a truth value or a failure. -/
theorem Law.answer_eq {x y : α} (h : Law c x y) : answer x = answer y := by
  cases h with
  | notAnd xs => rw [hc.not, hc.and, hc.or, hc.map_not, negate_conj]
  | notOr xs => rw [hc.not, hc.or, hc.and, hc.map_not, negate_disj]
  | notNot => rw [hc.not, hc.not, negate_negate]
  | andAppend xs ys =>
    rw [hc.and, hc.and, List.map_append, List.map_cons, List.map_cons, List.map_nil, hc.and, hc.and, conj_append]
  | orAppend xs ys =>
    rw [hc.or, hc.or, List.map_append, List.map_cons, List.map_cons, List.map_nil, hc.or, hc.or, disj_append]

theorem Replaces.answer_eq {top : α → α → Prop} (htop : ∀ {x y}, top x y → answer x = answer y) {x y : α}
    (h : Replaces c top x y) : answer x = answer y := by
  induction h with
  | top h => exact htop h
  | refl => rfl
  | symm _ ih => exact ih.symm
  | trans _ _ ih ih' => exact ih.trans ih'
  | and before after _ ih => rw [hc.and, hc.and, List.map_append, List.map_append, List.map_cons, List.map_cons, ih]
  | or before after _ ih => rw [hc.or, hc.or, List.map_append, List.map_append, List.map_cons, List.map_cons, ih]
  | not _ ih => rw [hc.not, hc.not, ih]

end AnsweredBy

end Filter

open AttributeRelease.Filter (Connectives Law Replaces)

namespace Matcher

def connectives : Connectives Matcher := ⟨.and, .or, .not⟩

/-- A matcher made from another one by laws, at any depth. -/
def Rewrites : Matcher → Matcher → Prop := Replaces connectives (Law connectives)

theorem answeredBy (v : Value) (ctx : Context) : connectives.AnsweredBy (test v ctx) :=
  ⟨test_and v ctx, test_or v ctx, test_not v ctx⟩

theorem Rewrites.test_eq {m m' : Matcher} (h : m.Rewrites m') (v : Value) (ctx : Context) :
    m.test v ctx = m'.test v ctx :=
  Replaces.answer_eq (answeredBy v ctx) (Law.answer_eq (answeredBy v ctx)) h

end Matcher

namespace Requirement

def connectives : Connectives Requirement := ⟨.and, .or, .not⟩

/-- A single replacement: one side of a law by the other, or a rewritten matcher for a value of an attribute. -/
inductive Replacement : Requirement → Requirement → Prop
  | law {q q' : Requirement} (h : Law connectives q q') : Replacement q q'
  | attributeValue (key : String) {m m' : Matcher} (h : m.Rewrites m') :
    Replacement (.attributeValue key m) (.attributeValue key m')

/-- A requirement made from another one by laws, at any depth and also in its matchers. -/
def Rewrites : Requirement → Requirement → Prop := Replaces connectives Replacement

theorem answeredBy (ctx : Context) : connectives.AnsweredBy (test ctx) := ⟨test_and ctx, test_or ctx, test_not ctx⟩

theorem Replacement.test_eq {q q' : Requirement} (h : Replacement q q') (ctx : Context) : q.test ctx = q'.test ctx := by
  cases h with
  | law h => exact Law.answer_eq (answeredBy ctx) h
  | attributeValue key h =>
    rw [test, test]
    exact someValue_congr (fun v => h.test_eq v ctx) _

theorem Rewrites.test_eq {q q' : Requirement} (h : q.Rewrites q') (ctx : Context) : q.test ctx = q'.test ctx :=
  Replaces.answer_eq (answeredBy ctx) (fun h => h.test_eq ctx) h

end Requirement

namespace Filter

/-- Two filters that differ only by laws in their requirements and in the matchers of their rules. -/
def Rewrites : Filter → Filter → Prop := Alike Requirement.Rewrites Matcher.Rewrites

theorem Rewrites.answersAlike {f f' : Filter} (h : f.Rewrites f') (ctx : Context) : AnswersAlike ctx ctx f f' :=
  h.imp (fun hq => hq.test_eq ctx) fun hm v => hm.test_eq v ctx

/--
**The laws hold in spite of failures.** Let tests of one's own fail or crash as they will. Then both sides of a law, be
it on matchers or on requirements, come to the same truth value or the same error for any value and in any context:
negations of `and` and `or`, double negations, and parts of `and` or `or` that are bundled. And a filter in whose
requirements and rules sides of laws are replaced at any depth, also in matchers that stand in requirements, releases
the same attributes and reports the same, whatever the attributes and the request are.
-/
theorem laws_hold_despite_failures :
    (∀ m m' : Matcher, Law Matcher.connectives m m' → ∀ v ctx, m.test v ctx = m'.test v ctx) ∧
    (∀ q q' : Requirement, Law Requirement.connectives q q' → ∀ ctx, q.test ctx = q'.test ctx) ∧
    ∀ f f' : Filter, f.Rewrites f' → ∀ attributes request,
      f.release attributes request = f'.release attributes request := by
  refine ⟨fun m m' h v ctx => ?_, fun q q' h ctx => ?_, fun f f' h attributes request => ?_⟩
  · exact Law.answer_eq (Matcher.answeredBy v ctx) h
  · exact Law.answer_eq (Requirement.answeredBy ctx) h
  · have halike := h.answersAlike ⟨request, attributes⟩
    rw [release_eq, release_eq, halike.activePolicies_eq, halike.countFailing_eq, halike.verdict_eq]

namespace Sample

/-- Cannot tell whether an address is blocked. -/
def unsure : Matcher := .custom ⟨"is blocked", fun _ _ => .panics⟩

/-- Releases addresses if there is one that a matcher holds of. -/
def provided (m : Matcher) : Filter where
  policies := [{ id := "provided", requirement := .and [.any, .attributeValue "mail" m]
                 rules := [{ key := "mail", matcher := .any }] }]
  ids_nodup := by simp

def notBoth : Matcher := .not (.and [.text (.exact "root@example.org"), unsure])

def notEither : Matcher := .or [.not (.text (.exact "root@example.org")), .not unsure]

theorem provided_rewrites : (provided notBoth).Rewrites (provided notEither) := by
  have hmatcher : notBoth.Rewrites notEither := .top (.notAnd _)
  have hvalue : (Requirement.attributeValue "mail" notBoth).Rewrites (.attributeValue "mail" notEither) :=
    .top (.attributeValue "mail" hmatcher)
  have hrequirement : (Requirement.and [.any, .attributeValue "mail" notBoth]).Rewrites
      (.and [.any, .attributeValue "mail" notEither]) := Replaces.and [Requirement.any] [] hvalue
  exact .cons ⟨rfl, hrequirement, .cons ⟨rfl, rfl, .refl _⟩ .nil⟩ .nil

end Sample

/-- With the negation moved inwards the filter releases the same, and where the test crashes both sides fail alike. -/
theorem laws_hold_despite_failures_of_sample :
    (Sample.provided Sample.notBoth).Rewrites (Sample.provided Sample.notEither) ∧
      (Sample.provided Sample.notBoth).release Sample.attributes Sample.request =
        (Sample.provided Sample.notEither).release Sample.attributes Sample.request ∧
      Sample.notBoth.test (.string "root@example.org") ⟨Sample.request, Sample.attributes⟩ =
        .error (.matcher "is blocked" "predicate panicked") ∧
      Sample.notEither.test (.string "root@example.org") ⟨Sample.request, Sample.attributes⟩ =
        .error (.matcher "is blocked" "predicate panicked") := by
  obtain ⟨hmatchers, -, hfilters⟩ := laws_hold_despite_failures
  have hfails : Sample.notBoth.test (.string "root@example.org") ⟨Sample.request, Sample.attributes⟩ =
      .error (.matcher "is blocked" "predicate panicked") := rfl
  have hsame := hmatchers Sample.notBoth Sample.notEither (.notAnd _) (.string "root@example.org")
    ⟨Sample.request, Sample.attributes⟩
  exact ⟨Sample.provided_rewrites, hfilters _ _ Sample.provided_rewrites _ _, hfails, hsame.symm.trans hfails⟩

end Filter

end AttributeRelease
