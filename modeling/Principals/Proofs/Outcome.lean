/-!
# Successes taken apart

A computation that may fail succeeds only if each of its steps does. The equivalences below give the
intermediate results of a success by name.
-/

namespace Principals

variable {ε α β : Type} {x : Except ε α}

/-- A sequence succeeds if its first step does and the rest does with what that gave. -/
theorem bind_eq_ok {f : α → Except ε β} {b : β} :
    x >>= f = .ok b ↔ ∃ a, x = .ok a ∧ f a = .ok b := by
  cases x with
  | error e =>
    constructor
    · intro done
      cases done
    · intro h
      rcases h with ⟨a, given, -⟩
      cases given
  | ok a =>
    constructor
    · exact fun done => ⟨a, rfl, done⟩
    · intro h
      rcases h with ⟨b, given, done⟩
      cases given
      exact done

theorem ok_bind (a : α) (f : α → Except ε β) : (Except.ok a : Except ε α) >>= f = f a := rfl

theorem map_eq_ok {f : α → β} {b : β} : x.map f = .ok b ↔ ∃ a, x = .ok a ∧ f a = b := by
  cases x <;> simp [Except.map]

end Principals
