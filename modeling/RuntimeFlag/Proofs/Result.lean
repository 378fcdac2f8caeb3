/-!
# Results that may be failures

What a success of a composed computation says about its steps.
-/
namespace RuntimeFlag

variable {ε δ α β : Type}

theorem bind_eq_ok {result : Except ε α} {next : α → Except ε β} {b : β} :
    (result >>= next) = .ok b ↔ ∃ a, result = .ok a ∧ next a = .ok b := by
  cases result with
  | error fault => exact ⟨fun h => (nomatch h), fun ⟨_, h, _⟩ => (nomatch h)⟩
  | ok a =>
    constructor
    · intro h
      exact ⟨a, rfl, h⟩
    · rintro ⟨_, ha, h⟩
      cases ha
      exact h

theorem bind_congr_of_ok {result : Except ε α} {next other : α → Except ε β}
    (h : ∀ a, result = .ok a → next a = other a) : result >>= next = result >>= other := by
  cases result with
  | error fault => rfl
  | ok a => exact h a rfl

theorem map_eq_ok {result : Except ε α} {f : α → β} {b : β} :
    result.map f = .ok b ↔ ∃ a, result = .ok a ∧ f a = b := by
  cases result <;> simp [Except.map]

@[simp] theorem mapError_ok (f : ε → δ) (a : α) :
    (Except.ok a : Except ε α).mapError f = .ok a := rfl

@[simp] theorem mapError_error (f : ε → δ) (fault : ε) :
    (Except.error fault : Except ε α).mapError f = .error (f fault) := rfl

theorem mapError_eq_ok {result : Except ε α} {f : ε → δ} {a : α} :
    result.mapError f = .ok a ↔ result = .ok a := by
  cases result <;> simp

end RuntimeFlag
