import Reckon.Proofs.Grammar.Nesting
/-!
# Grammar — substitution

A tree with a primary expression in place of each variable. If the
expressions put in mean the values of the variables wherever they are not
refused for their nesting, the tree means the same unless it is refused for
that (`orRefused_substitute`): every part is evaluated in the same order, so the
first error stays the first.
-/

namespace Reckon

namespace Grammar

/-! ## The same, or refused -/

/-- **The same or refused:** a computation comes to what another comes to, or is
refused for its nesting. -/
def OrRefused {α : Type} (bound : Nat) (x y : Except Error α) : Prop :=
  x = .error (.nestingExceeded (.whole bound)) ∨ x = y

namespace OrRefused

variable {α β : Type} {bound : Nat} {x y : Except Error α}

theorem same (x : Except Error α) : OrRefused bound x x := .inr rfl

/-- One step after another: what is refused first is refused altogether. -/
theorem bind {f g : α → Except Error β} (hx : OrRefused bound x y)
    (hf : ∀ v, OrRefused bound (f v) (g v)) : OrRefused bound (x >>= f) (y >>= g) := by
  rcases hx with rfl | rfl
  · exact .inl rfl
  · cases x with
    | error e => exact .inr rfl
    | ok v => exact hf v

end OrRefused

/-- The same for the meanings of a part; for what is repeated, after every value. -/
def Part.OrRefused (bound : Nat) : (p : Part) → p.Meaning → p.Meaning → Prop
  | .expression, m, m' | .additive, m, m' | .multiplicative, m, m' | .unary, m, m'
  | .exponent, m, m' | .primary, m, m' => Grammar.OrRefused bound m m'
  | .sums, m, m' | .products, m, m' => ∀ left, Grammar.OrRefused bound (m left) (m' left)
  | .arguments, m, m' | .items, m, m' => Grammar.OrRefused bound m m'

namespace Tree

/-- **A tree with other expressions in place of its variables.** -/
def substitute (f : (name : String) → (position : Int) → Tree .primary) :
    {p : Part} → Tree p → Tree p
  | _, expression t => expression (t.substitute f)
  | _, additive first rest => additive (first.substitute f) (rest.substitute f)
  | _, lastSum => lastSum
  | _, sum op level position operand rest =>
    sum op level position (operand.substitute f) (rest.substitute f)
  | _, multiplicative first rest => multiplicative (first.substitute f) (rest.substitute f)
  | _, lastProduct => lastProduct
  | _, product op level position operand rest =>
    product op level position (operand.substitute f) (rest.substitute f)
  | _, negation position operand => negation position (operand.substitute f)
  | _, unsigned t => unsigned (t.substitute f)
  | _, single base => single (base.substitute f)
  | _, power base op level position exponent =>
    power (base.substitute f) op level position (exponent.substitute f)
  | _, number v position => number v position
  | _, constantName name position => constantName name position
  | _, variableName name position => f name position
  | _, call name position args => call name position (args.substitute f)
  | _, group opening inside closing => group opening (inside.substitute f) closing
  | _, noArguments opening closing => noArguments opening closing
  | _, arguments opening first rest closing =>
    arguments opening (first.substitute f) (rest.substitute f) closing
  | _, lastItem => lastItem
  | _, item comma argument rest => item comma (argument.substitute f) (rest.substitute f)

variable {p : Part} {f : (name : String) → (position : Int) → Tree .primary}

/-- Variables in place of themselves are no change. -/
theorem substitute_variableName (t : Tree p) : t.substitute variableName = t := by
  induction t with
  | variableName => rfl
  | _ => simp_all only [substitute]

/-- What the tokens of the tree say: each variable says what is put in its place,
every other token what it says. -/
theorem lexemes_substitute {g : Token → List Lexeme}
    (hvariable : ∀ name position,
      (f name position).yield.map (·.lexeme) = g ⟨.symbol .variableName name, position⟩)
    (hother : ∀ token : Token, token.lexeme.is .variableName = false → g token = [token.lexeme])
    (t : Tree p) : (t.substitute f).yield.map (·.lexeme) = t.yield.flatMap g := by
  induction t with
  | variableName name position => simp [substitute, yield, hvariable]
  | _ => simp_all [substitute, yield, operatorToken, Mark.token, Lexeme.is]

variable {bindings bindings' : Bindings} {gate gate' : Nat → Except Error Unit} {bound : Nat}

/-- **A substitution keeps the meaning,** unless a part is refused for its nesting. -/
theorem orRefused_substitute (hgate : ∀ depth, OrRefused bound (gate depth) (gate' depth))
    (hf : ∀ name position depth,
      OrRefused bound ((f name position).meaning bindings gate depth) (boundValue bindings' name))
    (t : Tree p) : ∀ depth, p.OrRefused bound ((t.substitute f).meaning bindings gate depth)
      (t.meaning bindings' gate' depth) := by
  induction t with
  | expression _ ih | unsigned _ ih | single _ ih => exact ih
  | additive first rest ih₁ ih₂ | multiplicative first rest ih₁ ih₂ =>
    intro d
    exact .bind (ih₁ d) (ih₂ d)
  | sum op _ _ operand rest ih₁ ih₂ | product op _ _ operand rest ih₁ ih₂ =>
    intro d left
    exact .bind (ih₁ d) fun right => .bind (.same _) (ih₂ d)
  | lastSum | lastProduct => exact fun _ _ => .same _
  | negation _ operand ih =>
    intro d
    exact .bind (hgate (d + 1)) fun _ => .bind (ih (d + 1)) fun _ => .same _
  | power base op _ _ exponent ih₁ ih₂ =>
    intro d
    exact .bind (ih₁ d) fun left => .bind (hgate (d + 1)) fun _ =>
      .bind (ih₂ (d + 1)) fun right => .same _
  | number | constantName | noArguments | lastItem => exact fun _ => .same _
  | variableName name position => exact hf name position
  | call name _ args ih =>
    intro d
    exact .bind (hgate (d + 1)) fun _ => .bind (ih (d + 1)) fun values => .same _
  | group _ inside _ ih =>
    intro d
    exact .bind (hgate (d + 1)) fun _ => ih (d + 1)
  | arguments _ first rest _ ih₁ ih₂ | item _ first rest ih₁ ih₂ =>
    intro d
    exact .bind (ih₁ d) fun v => .bind (ih₂ d) fun vs => .same _

/-- The gate of a nesting bound lets pass or refuses. -/
theorem withinBound_orRefused (depth : Nat) :
    OrRefused bound (withinBound bound depth) (.ok ()) := by
  rw [withinBound]
  split
  · exact .same _
  · exact .inl rfl

/-- **An expression inside of nested parts** has its value or is refused. -/
theorem value_orRefused (t : Tree .expression) (depth : Nat) :
    OrRefused bound (t.meaning bindings (withinBound bound) depth) (t.value bindings) := by
  have hmeaning : Part.OrRefused bound .expression
      ((t.substitute variableName).meaning bindings (withinBound bound) depth)
      (t.meaning bindings (fun _ => .ok ()) depth) :=
    orRefused_substitute withinBound_orRefused (fun _ _ _ => .same _) t depth
  -- without a bound it does not matter how deep the expression stands
  have hdepth : t.meaning bindings (fun _ => .ok ()) depth = t.value bindings :=
    (t.meaning_of_nesting_le 0 depth (Nat.le_of_eq (Nat.zero_add _))).symm.trans
      (t.meaning_of_nesting_le 0 0 (Nat.le_of_eq (Nat.zero_add _)))
  rwa [substitute_variableName, hdepth] at hmeaning

/-- **A group around an expression with a value** has that value or is refused. -/
theorem group_orRefused {t : Tree .expression} {v : Float}
    (h : t.valueWithin bindings bound = .ok v) (opening closing : Mark) (depth : Nat) :
    OrRefused bound ((group opening t closing).meaning bindings (withinBound bound) depth)
      (.ok v) := by
  have hinside : OrRefused bound (t.meaning bindings (withinBound bound) (depth + 1))
      (t.value bindings) := t.value_orRefused (depth + 1)
  rw [(valueWithin_eq_ok_iff.mp h).2] at hinside
  exact .bind (withinBound_orRefused (depth + 1)) fun _ => hinside

end Tree

end Grammar

end Reckon
