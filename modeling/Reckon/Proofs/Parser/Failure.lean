import Reckon.Proofs.Parser.Success
/-!
# Parser — steps that stop

The counterpart of steps that have a value: one step after another stops
where the first does, or where the second does after a value of the first; a
nested part is refused or stops inside; a chain or a list stops in one of its
parts. A mark that is required and missing stops before the next token.
-/

namespace Reckon

namespace Parser

open Grammar

variable {α β : Type} {input : Input} {c c' : Cursor} {stop : Stop}

theorem bind_eq_error_iff {a : Action α} {f : α → Action β} :
    (a >>= f) c = .error stop c' ↔
      a c = .error stop c' ∨ ∃ v c₁, a c = .ok v c₁ ∧ f v c₁ = .error stop c' := by
  rw [bind_apply]
  rcases a c with ⟨v, c₁⟩ | ⟨stop₁, c₁⟩
  · refine ⟨fun h => .inr ⟨v, c₁, rfl, h⟩, ?_⟩
    rintro (h | ⟨w, c₂, hw, h⟩)
    · cases h
    · cases hw
      exact h
  · simp

theorem value_eq_error_iff {x : Except Error α} :
    value x c = .error stop c' ↔ ∃ e, x = .error e ∧ stop = .error e ∧ c' = c := by
  cases x with
  | error e =>
    simp only [value_error, fail_apply, EStateM.Result.error.injEq, Except.error.injEq]
    constructor
    · rintro ⟨rfl, rfl⟩
      exact ⟨e, rfl, rfl, rfl⟩
    · rintro ⟨_, rfl, rfl, rfl⟩
      exact ⟨rfl, rfl⟩
  | ok v => simp

theorem peek_ne_error : peek input c ≠ .error stop c' := by
  simp

/-- A step after moving past one token stops from there. -/
theorem advance_bind_eq_error {f : Unit → Action β}
    (h : (advance >>= f) c = .error stop c') : f () (c.forward 1) = .error stop c' := by
  rwa [bind_apply, advance_apply] at h

/-- A nested part is refused for its depth, or stops inside. -/
theorem nested_eq_error {part : Action α} (h : nested input part c = .error stop c') :
    stop = .error (.nestingExceeded input.bound) ∨
      ∃ c₁, part c.inside = .error stop c₁ ∧ c' = c₁.outside := by
  rcases Nat.lt_or_ge input.levels (c.depth + 1) with hl | hl
  · rw [nested_of_lt part hl] at h
    cases h
    exact .inl rfl
  · rw [nested_of_le part hl] at h
    rcases hp : part c.inside with ⟨v, c₁⟩ | ⟨stop₁, c₁⟩
    · rw [hp] at h
      cases h
    · rw [hp] at h
      cases h
      exact .inr ⟨c₁, rfl, rfl⟩

/-- A mark that is missing stops before the token that stands there. -/
theorem require_eq_error {kind : Symbol} {what : Requirement}
    (h : require input kind what c = .error stop c') :
    stop = .error (.required what (input.rest c).head?) ∧ c' = c := by
  rw [require_apply] at h
  split at h
  · cases h
  · cases h
    exact ⟨rfl, rfl⟩

/-- A chain stops past an operator: in its operand, in the operation, or in the
rest of the chain. -/
theorem chain_eq_error {operand : Action Float} {precedence count : Nat} {left : Float}
    (h : chain input precedence operand (count + 1) left c = .error stop c') :
    ∃ op position, op.precedence = precedence ∧
      input.rest c = operatorToken op position :: input.rest (c.forward 1) ∧
      (operand (c.forward 1) = .error stop c' ∨
        ∃ right c₁, operand (c.forward 1) = .ok right c₁ ∧
          ((∃ e, operate op left right = .error e ∧ stop = .error e) ∨
            ∃ next, chain input precedence operand count next c₁ = .error stop c')) := by
  rcases bind_eq_error_iff.mp h with hop | ⟨op?, c₁, hop, h⟩
  · rw [operator?_apply] at hop
    cases hop
  obtain ⟨rfl, hop⟩ := operator?_eq_ok hop
  cases op? with
  | none => cases h
  | some op =>
    obtain ⟨level, position, hrest⟩ := hop op rfl
    refine ⟨op, position, level, hrest, ?_⟩
    rcases bind_eq_error_iff.mp (advance_bind_eq_error h) with hright | ⟨right, c₂, hright, h⟩
    · exact .inl hright
    · refine .inr ⟨right, c₂, hright, ?_⟩
      rcases bind_eq_error_iff.mp h with hvalue | ⟨next, c₃, hvalue, h⟩
      · obtain ⟨e, he, hstop, -⟩ := value_eq_error_iff.mp hvalue
        exact .inl ⟨e, he, hstop⟩
      · obtain ⟨-, rfl⟩ := value_eq_ok_iff.mp hvalue
        exact .inr ⟨next, h⟩

/-- A list of items stops past a comma: in the item, or in the rest of the list. -/
theorem items_eq_error {item : Action Float} {count : Nat}
    (h : items input item (count + 1) c = .error stop c') :
    ∃ comma : Mark, input.rest c = comma.token .comma :: input.rest (c.forward 1) ∧
      (item (c.forward 1) = .error stop c' ∨
        ∃ v c₁, item (c.forward 1) = .ok v c₁ ∧ items input item count c₁ = .error stop c') := by
  rcases bind_eq_error_iff.mp h with hmore | ⟨more, c₁, hmore, h⟩
  · rw [at?_apply] at hmore
    cases hmore
  obtain ⟨rfl, hmore⟩ := at?_eq_ok hmore
  cases more with
  | false => cases h
  | true =>
    obtain ⟨comma, hrest⟩ := hmore rfl
    refine ⟨comma, hrest, ?_⟩
    rcases bind_eq_error_iff.mp (advance_bind_eq_error h) with hv | ⟨v, c₂, hv, h⟩
    · exact .inl hv
    · rcases bind_eq_error_iff.mp h with hitems | ⟨rest, c₃, -, h⟩
      · exact .inr ⟨v, c₂, hv, hitems⟩
      · cases h

end Parser

end Reckon
