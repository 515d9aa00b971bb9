/-!
# Except — how a computation ends

When a computation that may stop has a value, and when it stops: one step
after another, and a step whose errors are told in other words. Two
computations may also come to the same unless the first stops for a reason
of its own (`SameUnless`).
-/

namespace Reckon

namespace Except

variable {ε ε' α β : Type} {x : Except ε α}

/-- One step after another has a value where the first has one and the second
has one from there. -/
theorem bind_eq_ok_iff {f : α → Except ε β} {w : β} :
    (x >>= f) = .ok w ↔ ∃ v, x = .ok v ∧ f v = .ok w := by
  cases x <;> simp [bind, Except.bind]

/-- It stops where the first does, or where the second does from its value. -/
theorem bind_eq_error_iff {f : α → Except ε β} {e : ε} :
    (x >>= f) = .error e ↔ x = .error e ∨ ∃ v, x = .ok v ∧ f v = .error e := by
  cases x <;> simp [bind, Except.bind]

@[simp] theorem mapError_ok {f : ε → ε'} {v : α} :
    (.ok v : Except ε α).mapError f = .ok v := rfl

@[simp] theorem mapError_error {f : ε → ε'} {e : ε} :
    (.error e : Except ε α).mapError f = .error (f e) := rfl

/-- Other words for the errors are no other values. -/
theorem mapError_eq_ok_iff {f : ε → ε'} {v : α} : x.mapError f = .ok v ↔ x = .ok v := by
  cases x <;> simp

/-- A computation has a value where one is left of it without its errors. -/
theorem toOption_eq_some_iff {v : α} : x.toOption = some v ↔ x = .ok v := by
  cases x <;> simp [Except.toOption]

/-! ## What a computation may stop with -/

/-- **A computation stops with nothing but** errors of a predicate. -/
def FailsOnly (P : ε → Prop) (x : Except ε α) : Prop :=
  ∀ e, x = .error e → P e

namespace FailsOnly

variable {P : ε → Prop}

theorem ok (v : α) : FailsOnly P (.ok v : Except ε α) := by
  rintro e ⟨⟩

theorem error {e : ε} (h : P e) : FailsOnly P (.error e : Except ε α) := by
  rintro _ ⟨⟩
  exact h

/-- One step after another. -/
theorem bind {f : α → Except ε β} (hx : FailsOnly P x) (hf : ∀ v, FailsOnly P (f v)) :
    FailsOnly P (x >>= f) := by
  intro e h
  rcases bind_eq_error_iff.mp h with h | ⟨v, -, h⟩
  · exact hx e h
  · exact hf v e h

end FailsOnly

/-! ## Two computations -/

/-- **One computation comes to what another does,** unless that stops with an error
of a predicate. -/
def SameUnless (P : ε → Prop) (x y : Except ε α) : Prop :=
  y = x ∨ ∃ e, P e ∧ x = .error e

namespace SameUnless

variable {P : ε → Prop} {y : Except ε α}

theorem same (x : Except ε α) : SameUnless P x x := .inl rfl

theorem error {e : ε} (h : P e) : SameUnless P (.error e) y := .inr ⟨e, h, rfl⟩

/-- One step after another. -/
theorem bind {f g : α → Except ε β} (hx : SameUnless P x y)
    (hf : ∀ v, SameUnless P (f v) (g v)) : SameUnless P (x >>= f) (y >>= g) := by
  rcases hx with rfl | ⟨e, he, rfl⟩
  · cases y with
    | error e => exact same _
    | ok v => exact hf v
  · exact error he

end SameUnless

end Except

end Reckon
