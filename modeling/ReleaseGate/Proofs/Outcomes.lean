/-
# Proofs.Outcomes — computations that may fail, taken apart

A chain of computations succeeds exactly if its first link does and the others
succeed on what it gives (`bind_eq_ok`), so a success can be followed link by link
without opening the chain.
-/
namespace ReleaseGate

set_option autoImplicit false

theorem bind_ok {ε α β : Type} (a : α) (k : α → Except ε β) : (Except.ok a >>= k) = k a := rfl

theorem bind_error {ε α β : Type} (why : ε) (k : α → Except ε β) :
    (Except.error why >>= k) = .error why := rfl

theorem bind_eq_ok {ε α β : Type} {x : Except ε α} {k : α → Except ε β} {b : β} :
    (x >>= k) = .ok b ↔ ∃ a, x = .ok a ∧ k a = .ok b := by
  cases x with
  | error why => simp [bind, Except.bind]
  | ok a => simp [bind, Except.bind]

theorem bind_eq_error {ε α β : Type} {x : Except ε α} {k : α → Except ε β} {why : ε} :
    (x >>= k) = .error why ↔ x = .error why ∨ ∃ a, x = .ok a ∧ k a = .error why := by
  cases x with
  | error why' => simp [bind, Except.bind]
  | ok a => simp [bind, Except.bind]

theorem map_eq_ok {ε α β : Type} {x : Except ε α} {f : α → β} {b : β} :
    x.map f = .ok b ↔ ∃ a, x = .ok a ∧ f a = b := by
  cases x <;> simp [Except.map]

theorem map_eq_error {ε α β : Type} {x : Except ε α} {f : α → β} {why : ε} :
    x.map f = .error why ↔ x = .error why := by
  cases x <;> simp [Except.map]

theorem pure_eq_ok {ε α : Type} {a b : α} : (pure a : Except ε α) = .ok b ↔ a = b := by
  simp [pure, Except.pure]

theorem throw_ne_ok {ε α : Type} {why : ε} {b : α} : (throw why : Except ε α) ≠ .ok b := by
  simp [throw, throwThe, MonadExceptOf.throw]

end ReleaseGate
