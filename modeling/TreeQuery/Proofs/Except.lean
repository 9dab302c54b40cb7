set_option autoImplicit false

/-! # Computations that can fail

What is done in several steps succeeds if each step does, and two such computations are compared
step by step. -/

namespace TreeQuery

/-- A computation succeeds exactly if each of its parts does. -/
theorem bind_eq_ok_iff {ε α β : Type} {x : Except ε α} {f : α → Except ε β} {b : β} :
    x >>= f = .ok b ↔ ∃ a, x = .ok a ∧ f a = .ok b := by
  cases x <;> simp [bind, Except.bind]

/-- An outcome with other errors and other results. -/
def carry {ε ε' α α' : Type} (f : ε → ε') (h : α → α') : Except ε α → Except ε' α'
  | .error e => .error (f e)
  | .ok a => .ok (h a)

/-- What is done in two steps is carried over step by step. -/
theorem carry_bind {ε ε' α α' β β' : Type} {f : ε → ε'} {h : α → α'} {k : β → β'} {x : Except ε α}
    {x' : Except ε' α'} {y : α → Except ε β} {y' : α' → Except ε' β'} (hx : x' = carry f h x)
    (hy : ∀ a, y' (h a) = carry f k (y a)) : (x' >>= y') = carry f k (x >>= y) := by
  subst hx
  cases x with
  | error e => rfl
  | ok a => exact hy a

end TreeQuery
