import Reckon.Grammar.Meaning
import Reckon.Proofs.Except
/-!
# Grammar — syntax errors

A syntax error says that a token sequence is no expression. Operations,
functions and constants raise none, so whatever a derivation tree fails
with is not one of them (`semantic_meaning`).
-/

namespace Reckon

/-- Whether an error is one of the grammar. -/
def Error.isSyntax : Error → Bool
  | missingOperand | unexpected _ | required _ _ | trailingTokens => true
  | _ => false

/-- Whether an error says that a token, or the end, cannot stand where it does. -/
def Error.isUnexpected : Error → Bool
  | unexpected _ | required _ _ => true
  | _ => false

/-- **A syntax error stands at the next token:** the one that it names, or the
end where it names none. -/
def Error.IsAt (next : Option Token) : Error → Prop
  | missingOperand => next = none
  | unexpected found => next = some found
  | required _ found => next = found
  | _ => False

/-! ## Errors that are none of the grammar -/

/-- **A computation is semantic** where no error of it is one of the grammar. -/
def Semantic {α : Type} (x : Except Error α) : Prop :=
  ∀ e, x = .error e → e.isSyntax = false

namespace Semantic

variable {α β : Type} {x : Except Error α}

theorem ok (v : α) : Semantic (.ok v : Except Error α) := by
  intro e h
  cases h

theorem error {e : Error} (h : e.isSyntax = false) : Semantic (.error e : Except Error α) := by
  intro e' he
  cases he
  exact h

theorem bind {f : α → Except Error β} (hx : Semantic x) (hf : ∀ v, Semantic (f v)) :
    Semantic (x >>= f) := by
  intro e h
  rcases Except.bind_eq_error_iff.mp h with h | ⟨v, -, h⟩
  · exact hx e h
  · exact hf v e h

end Semantic

/-- Whether an error is one of values and names: an operation or a function has no value,
or a name stands for nothing. -/
def Error.ofValue : Error → Bool
  | unknownName _ | wrongArity _ _ _ | domain _ | divisionByZero => true
  | _ => false

theorem ofValue_operate (op : Operator) (left right : Float) :
    Except.FailsOnly (·.ofValue) (Parser.operate op left right) := by
  cases op with
  | divide =>
    rw [Parser.operate]
    split
    · exact .error rfl
    · exact .ok _
  | _ => exact .ok _

theorem ofValue_constantValue (name : String) :
    Except.FailsOnly (·.ofValue) (constantValue name) := by
  rw [constantValue]
  split
  · exact .ok _
  · exact .error rfl

theorem ofValue_unary (f : Unary) (x : Float) : Except.FailsOnly (·.ofValue) (f.apply x) := by
  cases f with
  | sqrt | log | log10 =>
    simp only [Unary.apply, Unary.logarithm]
    split
    · exact .error rfl
    · exact .ok _
  | _ => exact .ok _

theorem ofValue_applyNamed (name : String) (args : List Float) :
    Except.FailsOnly (·.ofValue) (applyNamed name args) := by
  rw [applyNamed]
  split
  · unfold Builtin.apply
    split
    · exact ofValue_unary _ _
    · exact .ok _
    · exact .error rfl
  · exact .error rfl

/-- No error of values and names is one of the grammar. -/
theorem Semantic.of_ofValue {α : Type} {x : Except Error α}
    (hx : Except.FailsOnly (·.ofValue) x) : Semantic x := by
  intro e h
  have he := hx e h
  cases e <;> first | rfl | cases he

theorem semantic_operate (op : Operator) (left right : Float) :
    Semantic (Parser.operate op left right) :=
  .of_ofValue (ofValue_operate op left right)

theorem semantic_constantValue (name : String) : Semantic (constantValue name) :=
  .of_ofValue (ofValue_constantValue name)

theorem semantic_applyNamed (name : String) (args : List Float) :
    Semantic (applyNamed name args) :=
  .of_ofValue (ofValue_applyNamed name args)

namespace Grammar

variable {bindings : Bindings} {bound : Nat} {p : Part}

/-- The same for the meanings of a part; for what is repeated, after every value. -/
def Part.Semantic : (p : Part) → p.Meaning → Prop
  | .expression, m | .additive, m | .multiplicative, m | .unary, m | .exponent, m
  | .primary, m => Reckon.Semantic m
  | .sums, m | .products, m => ∀ left, Reckon.Semantic (m left)
  | .arguments, m | .items, m => Reckon.Semantic m

theorem semantic_boundValue (name : String) : Semantic (boundValue bindings name) := by
  rw [boundValue]
  split
  · exact .ok _
  · exact .error rfl

namespace Tree

theorem semantic_withinBound (depth : Nat) : Semantic (withinBound bound depth) := by
  rw [withinBound]
  split
  · exact .ok _
  · exact .error rfl

/-- **No tree fails with a syntax error.** -/
theorem semantic_meaning (t : Tree p) : ∀ depth,
    p.Semantic (t.meaning bindings (withinBound bound) depth) := by
  induction t with
  | expression _ ih | unsigned _ ih | single _ ih => exact ih
  | additive first rest ih₁ ih₂ | multiplicative first rest ih₁ ih₂ =>
    intro d
    exact .bind (ih₁ d) (ih₂ d)
  | sum op _ _ operand rest ih₁ ih₂ | product op _ _ operand rest ih₁ ih₂ =>
    intro d left
    exact .bind (ih₁ d) fun right => .bind (semantic_operate op left right) (ih₂ d)
  | lastSum | lastProduct => exact fun _ => .ok
  | negation _ operand ih =>
    intro d
    exact .bind (semantic_withinBound (d + 1)) fun _ => .bind (ih (d + 1)) fun v => .ok (-v)
  | power base op _ _ exponent ih₁ ih₂ =>
    intro d
    exact .bind (ih₁ d) fun left => .bind (semantic_withinBound (d + 1)) fun _ =>
      .bind (ih₂ (d + 1)) fun right => semantic_operate op left right
  | number v _ => exact fun _ => .ok v
  | noArguments | lastItem => exact fun _ => .ok []
  | constantName name _ => exact fun _ => semantic_constantValue name
  | variableName name _ => exact fun _ => semantic_boundValue name
  | call name _ args ih =>
    intro d
    exact .bind (semantic_withinBound (d + 1)) fun _ =>
      .bind (ih (d + 1)) fun values => semantic_applyNamed name values
  | group _ inside _ ih =>
    intro d
    exact .bind (semantic_withinBound (d + 1)) fun _ => ih (d + 1)
  | arguments _ first rest _ ih₁ ih₂ | item _ first rest ih₁ ih₂ =>
    intro d
    exact .bind (ih₁ d) fun v => .bind (ih₂ d) fun vs => .ok (v :: vs)

end Tree

end Grammar

end Reckon
