import Principals.Store.Flush

/-!
# What an action gives and leaves

`StoreM.outcome` runs an action in a store: the result, or the failure, beside the store that is
left. Actions are compared by their outcomes; the equations below say what each primitive and each
sequence of two actions gives, so that no proof opens the monad again.

* `outcome_bind_ok`, `outcome_bind_error`: the rest runs in the store left by a success, and a
  failure ends the sequence;
* `outcome_bind_eq_ok`, `outcome_bind_cases`: the converse, by which a sequence is taken apart;
* `Keeps`: what is true of the store after an action, failed or not, if it was true before.
-/

namespace Principals.StoreM

variable {α β : Type}

/-- The result of an action in a store, and the store that it leaves. -/
def outcome (m : StoreM α) (s : Store) : Except Failure α × Store := m.run.run s

@[simp]
theorem outcome_pure (a : α) (s : Store) : outcome (pure a) s = (.ok a, s) := rfl

@[simp]
theorem outcome_lift (r : Except Failure α) (s : Store) : outcome (lift r) s = (r, s) := rfl

@[simp]
theorem outcome_ask (f : Store → Except Failure α) (s : Store) :
    outcome (ask f) s = (f s, s) := rfl

@[simp]
theorem outcome_create (r : Record) (s : Store) :
    outcome (create r) s = (.ok (s.add r).1, (s.add r).2) := rfl

/-- A change that fails leaves the store. -/
theorem outcome_change (f : Store → Except Failure Store) (s : Store) :
    outcome (change f) s = match f s with
      | .ok s' => (.ok (), s')
      | .error e => (.error e, s) :=
  rfl

theorem outcome_change_ok {f : Store → Except Failure Store} {s s' : Store} (ok : f s = .ok s') :
    outcome (change f) s = (.ok (), s') := by
  rw [outcome_change, ok]

/-- A transaction that fails leaves only what was written before. -/
theorem outcome_transact (f : Store → Except Failure Store) (s : Store) :
    outcome (transact f) s = match f s with
      | .ok s' => (.ok (), s')
      | .error e => (.error e, s.reload) :=
  rfl

theorem outcome_transact_ok {f : Store → Except Failure Store} {s s' : Store}
    (ok : f s = .ok s') : outcome (transact f) s = (.ok (), s') := by
  rw [outcome_transact, ok]

theorem eq_ok_of_outcome_transact {f : Store → Except Failure Store} {s s' : Store} {u : Unit}
    (done : outcome (transact f) s = (.ok u, s')) : f s = .ok s' := by
  rw [outcome_transact] at done
  cases given : f s with
  | error e =>
    rw [given] at done
    cases done
  | ok t =>
    rw [given] at done
    cases done
    rfl

/-! ## Sequences -/

theorem outcome_bind (m : StoreM α) (f : α → StoreM β) (s : Store) :
    outcome (m >>= f) s =
      match outcome m s with
      | (.ok a, s') => outcome (f a) s'
      | (.error e, s') => (.error e, s') := by
  change ((ExceptT.run m).run s >>= fun p => (ExceptT.bindCont f p.1).run p.2 : Id _) = _
  rcases eq : outcome m s with ⟨_ | a, s'⟩
  all_goals
    have run : (ExceptT.run m).run s = _ := eq
    rw [run]
    rfl

theorem outcome_bind_ok {m : StoreM α} {f : α → StoreM β} {s s' : Store} {a : α}
    (ok : outcome m s = (.ok a, s')) : outcome (m >>= f) s = outcome (f a) s' := by
  rw [outcome_bind, ok]

theorem outcome_bind_error {m : StoreM α} {f : α → StoreM β} {s s' : Store} {e : Failure}
    (failed : outcome m s = (.error e, s')) : outcome (m >>= f) s = (.error e, s') := by
  rw [outcome_bind, failed]

/-- Actions that leave the store are sequenced as their results are. -/
theorem outcome_bind_of_idle {m : StoreM α} {f : α → StoreM β} {s : Store} {r : Except Failure α}
    {g : α → Except Failure β} (first : outcome m s = (r, s))
    (rest : ∀ a, outcome (f a) s = (g a, s)) : outcome (m >>= f) s = (r >>= g, s) := by
  cases r with
  | error e => exact outcome_bind_error first
  | ok a => exact (outcome_bind_ok first).trans (rest a)

/-- A sequence that succeeds is a success followed by a success. -/
theorem outcome_bind_eq_ok {m : StoreM α} {f : α → StoreM β} {s t : Store} {b : β} :
    outcome (m >>= f) s = (.ok b, t) ↔
      ∃ a s', outcome m s = (.ok a, s') ∧ outcome (f a) s' = (.ok b, t) := by
  constructor
  · intro done
    rcases first : outcome m s with ⟨e | a, s'⟩
    · rw [outcome_bind_error first] at done
      cases done
    · rw [outcome_bind_ok first] at done
      exact ⟨a, s', rfl, done⟩
  · intro h
    rcases h with ⟨a, s', first, rest⟩
    rw [outcome_bind_ok first, rest]

/-- A sequence ends with the failure of its first part or with what the rest gives. -/
theorem outcome_bind_cases {m : StoreM α} {f : α → StoreM β} {s t : Store}
    {result : Except Failure β} (run : outcome (m >>= f) s = (result, t)) :
    (∃ e, outcome m s = (.error e, t) ∧ result = .error e) ∨
      ∃ a u, outcome m s = (.ok a, u) ∧ outcome (f a) u = (result, t) := by
  rcases first : outcome m s with ⟨e | a, u⟩
  · rw [outcome_bind_error first] at run
    cases run
    exact .inl ⟨e, rfl, rfl⟩
  · rw [outcome_bind_ok first] at run
    exact .inr ⟨a, u, rfl, run⟩

theorem outcome_lift_bind_cases {r : Except Failure α} {f : α → StoreM β} {s t : Store}
    {result : Except Failure β} (run : outcome (lift r >>= f) s = (result, t)) :
    (∃ e, r = .error e ∧ result = .error e ∧ t = s) ∨
      ∃ a, r = .ok a ∧ outcome (f a) s = (result, t) := by
  cases r with
  | error e =>
    rw [outcome_bind_error (outcome_lift _ s)] at run
    cases run
    exact .inl ⟨e, rfl, rfl, rfl⟩
  | ok a =>
    rw [outcome_bind_ok (outcome_lift _ s)] at run
    exact .inr ⟨a, rfl, run⟩

/-! ## What outlives an action -/

/-- Whether a property of the store outlives an action, also one that fails. -/
def Keeps (P : Store → Prop) (m : StoreM α) : Prop := ∀ s, P s → P (outcome m s).2

section
variable {P : Store → Prop} {m : StoreM α}

theorem Keeps.of_outcome (keeps : Keeps P m) {s t : Store} {result : Except Failure α}
    (run : outcome m s = (result, t)) (before : P s) : P t := by
  have after := keeps s before
  rwa [run] at after

theorem Keeps.pure (a : α) : Keeps P (pure a) := fun _ before => before

theorem Keeps.fail (e : Failure) : Keeps P (fail e : StoreM α) := fun _ before => before

theorem Keeps.lift (r : Except Failure α) : Keeps P (lift r) := fun _ before => before

theorem Keeps.ask (f : Store → Except Failure α) : Keeps P (ask f) := fun _ before => before

theorem Keeps.change {f : Store → Except Failure Store}
    (kept : ∀ s s', P s → f s = .ok s' → P s') : Keeps P (change f) := by
  intro s before
  rw [outcome_change]
  split
  · next s' given => exact kept s s' before given
  · exact before

theorem Keeps.bind {f : α → StoreM β} (first : Keeps P m) (rest : ∀ a, Keeps P (f a)) :
    Keeps P (m >>= f) := by
  intro s before
  rcases run : outcome (m >>= f) s with ⟨result, t⟩
  rcases outcome_bind_cases run with ⟨_, failed, -⟩ | ⟨a, u, done, later⟩
  · exact first.of_outcome failed before
  · exact (rest a).of_outcome later (first.of_outcome done before)

end

end Principals.StoreM
