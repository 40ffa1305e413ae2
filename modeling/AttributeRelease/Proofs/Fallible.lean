/-!
Computations in steps that may fail.
-/

namespace AttributeRelease

variable {ε α β : Type}

/-- Where the last step came to something, the one before it did. -/
theorem of_bind_ok {x : Except ε α} {next : α → Except ε β} {b : β} (h : x >>= next = .ok b) :
    ∃ a, x = .ok a ∧ next a = .ok b := by
  cases x with
  | error e => cases h
  | ok a => exact ⟨a, rfl, h⟩

/-- Where a step came to something, the next one goes on with that. -/
theorem bind_of_ok {x : Except ε α} {a : α} (h : x = .ok a) (next : α → Except ε β) : x >>= next = next a := by
  rw [h]
  rfl

/-- Where what is made of a result is known, there is a result. -/
theorem of_map_ok {x : Except ε α} {f : α → β} {b : β} (h : x.map f = .ok b) : ∃ a, x = .ok a ∧ f a = b := by
  cases x with
  | error e => cases h
  | ok a => exact ⟨a, rfl, Except.ok.inj h⟩

end AttributeRelease
