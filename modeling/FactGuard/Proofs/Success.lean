/-!
# Proofs/Success — when a computation that can fail succeeds

A chain of steps succeeds exactly if each of its steps does, so what a successful run has done can
be taken apart step by step.
-/

namespace FactGuard

variable {ε ε' α β : Type}

/-- A sequence succeeds exactly if both of its steps do; every reading is taken apart with this. -/
theorem bind_eq_ok_iff {x : Except ε α} {f : α → Except ε β} {b : β} :
    x >>= f = .ok b ↔ ∃ a, x = .ok a ∧ f a = .ok b := by
  cases x with
  | error e => simp [bind, Except.bind]
  | ok a => simp [bind, Except.bind]

theorem ok_bind (a : α) (f : α → Except ε β) : (.ok a : Except ε α) >>= f = f a := rfl

theorem map_eq_ok_iff {x : Except ε α} {f : α → β} {b : β} :
    f <$> x = .ok b ↔ ∃ a, x = .ok a ∧ f a = b := by
  cases x with
  | error e => simp [Functor.map, Except.map]
  | ok a => simp [Functor.map, Except.map]

/-- Renaming errors does not touch a success. -/
theorem mapError_eq_ok_iff {x : Except ε α} {f : ε → ε'} {a : α} :
    x.mapError f = .ok a ↔ x = .ok a := by
  cases x with
  | error e => exact iff_of_false nofun nofun
  | ok b =>
    change (.ok b : Except ε' α) = .ok a ↔ _
    simp

theorem pure_eq_ok_iff {a b : α} : (pure a : Except ε α) = .ok b ↔ a = b := by
  rw [pure, Applicative.toPure]
  exact Except.ok.injEq a b ▸ Iff.rfl

/-- A success may be sought as an option, which can be decided where errors cannot. -/
theorem toOption_eq_some_iff {x : Except ε α} {a : α} : x.toOption = some a ↔ x = .ok a := by
  cases x with
  | error e => exact iff_of_false nofun nofun
  | ok b =>
    change some b = some a ↔ _
    simp

/-- What a computation comes to can be told by a check that only one value passes. -/
theorem eq_ok_of_check {x : Except ε α} {a : α} (check : α → Bool)
    (sound : ∀ b, check b = true → b = a) (h : x.toOption.any check = true) : x = .ok a := by
  cases x with
  | error e => cases h
  | ok b => rw [sound b h]

theorem throw_ne_ok {e : ε} {a : α} : (throw e : Except ε α) ≠ .ok a := nofun

end FactGuard
