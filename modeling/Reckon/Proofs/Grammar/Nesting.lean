import Reckon.Grammar.Meaning
import Reckon.Proofs.Except
/-!
# Grammar — the nesting bound and the value

A tree that is not nested beyond the bound means the same under it as
without one (`valueWithin_eq_value`). The gate of every nested part is
asked before the part is evaluated, so a tree that has a value under a bound
is not nested beyond it (`nesting_le_of_valueWithin`).
-/

namespace Reckon

namespace Grammar

variable {bindings : Bindings} {bound : Nat} {p : Part}

/-- A meaning that has a value; for what is repeated, after some value. -/
def Part.Meaning.HasValue : (p : Part) → p.Meaning → Prop
  | .expression, m | .additive, m | .multiplicative, m | .unary, m | .exponent, m
  | .primary, m => ∃ v, m = .ok v
  | .sums, m | .products, m => ∃ left v, m left = .ok v
  | .arguments, m | .items, m => ∃ vs, m = .ok vs

namespace Tree

/-- The gate opens up to the bound. -/
theorem withinBound_eq_ok_iff {depth : Nat} : withinBound bound depth = .ok () ↔ depth ≤ bound := by
  rw [withinBound]
  split <;> simp_all

/-- **Within the bound a tree means what it means without one.** -/
theorem meaning_of_nesting_le (t : Tree p) : ∀ depth depth', depth + t.nesting ≤ bound →
    t.meaning bindings (withinBound bound) depth =
      t.meaning bindings (fun _ => .ok ()) depth' := by
  -- no gate is asked for a depth beyond the bound
  have gate : ∀ {d}, d ≤ bound → withinBound bound d = .ok () := withinBound_eq_ok_iff.2
  induction t with
  | expression _ ih | unsigned _ ih | single _ ih => exact ih
  | additive _ _ ih₁ ih₂ | multiplicative _ _ ih₁ ih₂ | sum _ _ _ _ _ ih₁ ih₂
  | product _ _ _ _ _ ih₁ ih₂ | arguments _ _ _ _ ih₁ ih₂ | item _ _ _ ih₁ ih₂ =>
    intro d d' h
    simp only [nesting] at h
    simp only [meaning]
    rw [ih₁ d d' (by omega), ih₂ d d' (by omega)]
  | lastSum | lastProduct | number | constantName | variableName | noArguments | lastItem =>
    intro _ _ _
    rfl
  | negation _ _ ih | call _ _ _ ih | group _ _ _ ih =>
    intro d d' h
    simp only [nesting] at h
    simp only [meaning]
    rw [gate (by omega), ih (d + 1) (d' + 1) (by omega)]
  | power _ _ _ _ _ ih₁ ih₂ =>
    intro d d' h
    simp only [nesting] at h
    simp only [meaning]
    rw [gate (by omega), ih₁ d d' (by omega), ih₂ (d + 1) (d' + 1) (by omega)]

/-- **A tree with a value under the bound is nested within it.** -/
theorem nesting_le_of_hasValue (t : Tree p) : ∀ depth, depth ≤ bound →
    Part.Meaning.HasValue p (t.meaning bindings (withinBound bound) depth) →
      depth + t.nesting ≤ bound := by
  -- on the tree: a nested part is as deep as the gate that let it in
  induction t with
  | expression _ ih | unsigned _ ih | single _ ih => exact ih
  | additive first rest ih₁ ih₂ | multiplicative first rest ih₁ ih₂ =>
    rintro d hd ⟨v, h⟩
    obtain ⟨left, h₁, h₂⟩ := Except.bind_eq_ok_iff.1 h
    have := ih₁ d hd ⟨left, h₁⟩
    have := ih₂ d hd ⟨left, v, h₂⟩
    simp only [nesting]
    omega
  | sum op _ _ operand rest ih₁ ih₂ | product op _ _ operand rest ih₁ ih₂ =>
    rintro d hd ⟨left, v, h⟩
    obtain ⟨right, h₁, h⟩ := Except.bind_eq_ok_iff.1 h
    obtain ⟨next, -, h₂⟩ := Except.bind_eq_ok_iff.1 h
    have := ih₁ d hd ⟨right, h₁⟩
    have := ih₂ d hd ⟨next, v, h₂⟩
    simp only [nesting]
    omega
  | arguments _ first rest _ ih₁ ih₂ | item _ first rest ih₁ ih₂ =>
    rintro d hd ⟨vs, h⟩
    obtain ⟨v, h₁, h⟩ := Except.bind_eq_ok_iff.1 h
    obtain ⟨vs', h₂, -⟩ := Except.bind_eq_ok_iff.1 h
    have := ih₁ d hd ⟨v, h₁⟩
    have := ih₂ d hd ⟨vs', h₂⟩
    simp only [nesting]
    omega
  | lastSum | lastProduct | number | constantName | variableName | noArguments | lastItem =>
    intro d hd _
    exact hd
  | negation _ operand ih | call _ _ operand ih =>
    rintro d hd ⟨v, h⟩
    obtain ⟨⟨⟩, h₁, h⟩ := Except.bind_eq_ok_iff.1 h
    obtain ⟨w, h₂, -⟩ := Except.bind_eq_ok_iff.1 h
    have := ih (d + 1) (withinBound_eq_ok_iff.1 h₁) ⟨w, h₂⟩
    simp only [nesting]
    omega
  | group _ inside _ ih =>
    rintro d hd ⟨v, h⟩
    obtain ⟨⟨⟩, h₁, h₂⟩ := Except.bind_eq_ok_iff.1 h
    have := ih (d + 1) (withinBound_eq_ok_iff.1 h₁) ⟨v, h₂⟩
    simp only [nesting]
    omega
  | power base op _ _ exponent ih₁ ih₂ =>
    rintro d hd ⟨v, h⟩
    obtain ⟨left, h₁, h⟩ := Except.bind_eq_ok_iff.1 h
    obtain ⟨⟨⟩, h₂, h⟩ := Except.bind_eq_ok_iff.1 h
    obtain ⟨right, h₃, -⟩ := Except.bind_eq_ok_iff.1 h
    have := ih₁ d hd ⟨left, h₁⟩
    have := ih₂ (d + 1) (withinBound_eq_ok_iff.1 h₂) ⟨right, h₃⟩
    simp only [nesting]
    omega

/-- An expression within the bound has its value, or fails, as without one. -/
theorem valueWithin_eq_value {t : Tree .expression} (h : t.nesting ≤ bound) :
    t.valueWithin bindings bound = t.value bindings :=
  t.meaning_of_nesting_le 0 0 (by omega)

/-- An expression with a value under the bound is nested within it. -/
theorem nesting_le_of_valueWithin {t : Tree .expression} {v : Float}
    (h : t.valueWithin bindings bound = .ok v) : t.nesting ≤ bound := by
  have := t.nesting_le_of_hasValue 0 (Nat.zero_le bound) ⟨v, h⟩
  omega

/-- **The value under a bound:** the value without one, of a tree that is not
nested beyond it. -/
theorem valueWithin_eq_ok_iff {t : Tree .expression} {v : Float} :
    t.valueWithin bindings bound = .ok v ↔ t.nesting ≤ bound ∧ t.value bindings = .ok v := by
  constructor
  · intro h
    have hn := nesting_le_of_valueWithin h
    exact ⟨hn, valueWithin_eq_value hn ▸ h⟩
  · rintro ⟨hn, h⟩
    exact (valueWithin_eq_value hn).trans h

end Tree

end Grammar

end Reckon
