import Reckon.Proofs.Grammar.Follow
/-!
# Parser — steps that have a value

What a step with a value has done, step by step: one step after another has
a value where both have, a nested part was entered below the bound, a mark
that was passed stood at the cursor, and a chain or a list has ended where
it started or gone on past one more part of it.
-/

namespace Reckon

namespace Parser

open Grammar

variable {α β : Type} {input : Input} {c c' : Cursor}

theorem bind_eq_ok_iff {a : Action α} {f : α → Action β} {w : β} {c'' : Cursor} :
    (a >>= f) c = .ok w c'' ↔ ∃ v c', a c = .ok v c' ∧ f v c' = .ok w c'' := by
  rw [bind_apply]
  rcases a c with ⟨v, c'⟩ | ⟨stop, c'⟩
  · refine ⟨fun h => ⟨v, c', rfl, h⟩, ?_⟩
    rintro ⟨v', c₁, hv, hw⟩
    cases hv
    exact hw
  · simp

theorem pure_eq_ok_iff {v w : α} : (pure v : Action α) c = .ok w c' ↔ v = w ∧ c = c' := by
  simp

theorem value_eq_ok_iff {x : Except Error α} {w : α} :
    value x c = .ok w c' ↔ x = .ok w ∧ c = c' := by
  cases x <;> simp

/-- A nested part with a value was entered below the bound. -/
theorem nested_eq_ok {part : Action α} {v : α} (h : nested input part c = .ok v c') :
    c.depth + 1 ≤ input.levels ∧ ∃ c₁, part c.inside = .ok v c₁ ∧ c' = c₁.outside := by
  rcases Nat.lt_or_ge input.levels (c.depth + 1) with hl | hl
  · rw [nested_of_lt part hl] at h
    cases h
  · rw [nested_of_le part hl] at h
    rcases hp : part c.inside with ⟨w, c₁⟩ | ⟨stop, c₁⟩
    · rw [hp] at h
      cases h
      exact ⟨hl, c₁, rfl, rfl⟩
    · rw [hp] at h
      cases h

/-- The token at the cursor comes before what is left past it. -/
theorem rest_eq_cons {token : Token} (h : (input.rest c).head? = some token) :
    input.rest c = token :: input.rest (c.forward 1) := by
  cases hr : input.rest c with
  | nil => simp [hr] at h
  | cons first rest =>
    obtain rfl : first = token := by simpa [hr] using h
    rw [Input.rest_forward_one hr]

/-- A token of a kind without more to it is a mark. -/
theorem eq_mark_of_is {token : Token} {kind : Symbol} (h : token.lexeme.is kind) :
    ∃ mark : Mark, token = mark.token kind := by
  obtain ⟨v | ⟨k, text⟩, position⟩ := token
  · simp [Lexeme.is] at h
  · obtain rfl : k = kind := by simpa [Lexeme.is] using h
    exact ⟨⟨text, position⟩, rfl⟩

/-- A token that is an operator is spelt like it. -/
theorem eq_operatorToken {token : Token} {op : Operator} (h : token.operator? = some op) :
    token = operatorToken op token.position := by
  obtain ⟨v | ⟨kind, text⟩, position⟩ := token
  · cases h
  · cases kind <;> try cases h
    have : op.spelling = text := by simpa using List.find?_some h
    simp [operatorToken, this]

theorem peek_eq_ok {token? : Option Token} (h : peek input c = .ok token? c') :
    c' = c ∧ (input.rest c).head? = token? := by
  rw [peek_apply] at h
  cases h
  exact ⟨rfl, rfl⟩

/-- An operator that is seen stands at the cursor. -/
theorem operator?_eq_ok {precedence : Nat} {op? : Option Operator}
    (h : operator? input precedence c = .ok op? c') : c' = c ∧ ∀ op, op? = some op →
      op.precedence = precedence ∧
        ∃ position, input.rest c = operatorToken op position :: input.rest (c.forward 1) := by
  rw [operator?_apply] at h
  obtain ⟨hop, rfl⟩ := EStateM.Result.ok.inj h
  refine ⟨rfl, fun op ho => ?_⟩
  rw [ho, Option.filter_eq_some_iff, Option.bind_eq_some_iff] at hop
  obtain ⟨⟨token, ht, hto⟩, hp⟩ := hop
  exact ⟨by simpa using hp, token.position, eq_operatorToken hto ▸ rest_eq_cons ht⟩

/-- A mark that is seen stands at the cursor. -/
theorem at?_eq_ok {kind : Symbol} {b : Bool} (h : at? input kind c = .ok b c') :
    c' = c ∧ (b = true →
      ∃ mark : Mark, input.rest c = mark.token kind :: input.rest (c.forward 1)) := by
  rw [at?_apply] at h
  obtain ⟨hb, rfl⟩ := EStateM.Result.ok.inj h
  refine ⟨rfl, fun ht => ?_⟩
  rw [ht] at hb
  cases hr : (input.rest c).head? with
  | none => simp [hr] at hb
  | some token =>
    have hkind : token.lexeme.is kind = true := by simpa [hr] using hb
    obtain ⟨mark, rfl⟩ := eq_mark_of_is hkind
    exact ⟨mark, rest_eq_cons hr⟩

/-- A mark that is passed stood at the cursor. -/
theorem require_eq_ok {kind : Symbol} {what : Requirement}
    (h : require input kind what c = .ok () c') : c' = c.forward 1 ∧
      ∃ mark : Mark, input.rest c = mark.token kind :: input.rest (c.forward 1) := by
  rw [require_apply] at h
  split at h
  · next hk =>
    cases h
    cases hr : (input.rest c).head? with
    | none => simp [hr] at hk
    | some token =>
      have hkind : token.lexeme.is kind = true := by simpa [hr] using hk
      obtain ⟨mark, rfl⟩ := eq_mark_of_is hkind
      exact ⟨rfl, mark, rest_eq_cons hr⟩
  · cases h

/-- A step after moving past one token starts there. -/
theorem advance_bind_eq_ok {f : Unit → Action β} {w : β}
    (h : (advance >>= f) c = .ok w c') : f () (c.forward 1) = .ok w c' := by
  rwa [bind_apply, advance_apply] at h

/-! ## Repetitions -/

/-- A chain with a value has ended where it started, or has gone on past an
operator and its operand. -/
theorem chain_eq_ok {operand : Action Float} {precedence count : Nat} {left v : Float}
    (h : chain input precedence operand (count + 1) left c = .ok v c') :
    left = v ∧ c = c' ∨
      ∃ op position right next c₁, op.precedence = precedence ∧
        input.rest c = operatorToken op position :: input.rest (c.forward 1) ∧
        operand (c.forward 1) = .ok right c₁ ∧ operate op left right = .ok next ∧
        chain input precedence operand count next c₁ = .ok v c' := by
  obtain ⟨op?, c₁, hop, h⟩ := bind_eq_ok_iff.mp h
  obtain ⟨rfl, hop⟩ := operator?_eq_ok hop
  cases op? with
  | none => exact .inl (pure_eq_ok_iff.mp h)
  | some op =>
    obtain ⟨level, position, hrest⟩ := hop op rfl
    -- the operator is passed, then come its operand, the operation and the rest
    obtain ⟨right, c₂, hright, h⟩ := bind_eq_ok_iff.mp (advance_bind_eq_ok h)
    obtain ⟨next, c₃, hvalue, h⟩ := bind_eq_ok_iff.mp h
    obtain ⟨hnext, rfl⟩ := value_eq_ok_iff.mp hvalue
    exact .inr ⟨op, position, right, next, c₂, level, hrest, hright, hnext, h⟩

/-- A list of items with a value has ended where it started, or has gone on
past a comma and an item. -/
theorem items_eq_ok {item : Action Float} {count : Nat} {vs : List Float}
    (h : items input item (count + 1) c = .ok vs c') :
    vs = [] ∧ c = c' ∨
      ∃ (comma : Mark) (v : Float) (rest : List Float) (c₁ : Cursor), vs = v :: rest ∧
        input.rest c = comma.token .comma :: input.rest (c.forward 1) ∧
        item (c.forward 1) = .ok v c₁ ∧ items input item count c₁ = .ok rest c' := by
  obtain ⟨more, c₁, hmore, h⟩ := bind_eq_ok_iff.mp h
  obtain ⟨rfl, hmore⟩ := at?_eq_ok hmore
  cases more with
  | false =>
    obtain ⟨rfl, rfl⟩ := pure_eq_ok_iff.mp h
    exact .inl ⟨rfl, rfl⟩
  | true =>
    obtain ⟨comma, hrest⟩ := hmore rfl
    obtain ⟨v, c₂, hv, h⟩ := bind_eq_ok_iff.mp (advance_bind_eq_ok h)
    obtain ⟨rest, c₃, hitems, h⟩ := bind_eq_ok_iff.mp h
    obtain ⟨rfl, rfl⟩ := pure_eq_ok_iff.mp h
    exact .inr ⟨comma, v, rest, c₂, rfl, hrest, hv, hitems⟩

end Parser

end Reckon
