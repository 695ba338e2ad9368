/-!
Computations that may fail, told apart by how they end. One that goes on after a first step succeeds
if both succeed, and fails as the first that fails.
-/

namespace TensorMemory

variable {ε α β : Type} {x : Except ε α} {f : α → Except ε β}

theorem exists_eq_ok_iff : (∃ a, x = .ok a) ↔ ∀ e, x ≠ .error e := by
  cases x <;> simp

theorem bind_eq_ok_iff {b : β} : x >>= f = .ok b ↔ ∃ a, x = .ok a ∧ f a = .ok b := by
  cases x <;> simp [bind, Except.bind]

theorem bind_eq_error_iff {e : ε} :
    x >>= f = .error e ↔ x = .error e ∨ ∃ a, x = .ok a ∧ f a = .error e := by
  cases x <;> simp [bind, Except.bind]

end TensorMemory
