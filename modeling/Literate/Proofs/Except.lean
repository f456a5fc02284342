/-!
# Results mapped by a function

A mapped result fails as the result does, and succeeds with the image of what it holds.
-/

namespace Literate

variable {ε α β : Type} {f : α → β} {result : Except ε α}

theorem exists_of_map_eq_ok {b : β} (h : result.map f = .ok b) :
    ∃ a, result = .ok a ∧ f a = b := by
  cases result with
  | error e => cases h
  | ok a => exact ⟨a, rfl, Except.ok.inj h⟩

theorem map_eq_error_iff {e : ε} : result.map f = .error e ↔ result = .error e := by
  cases result <;> simp [Except.map]

end Literate
