import Reckon.Grammar.Tree
import Reckon.Proofs.Parser.Steps
/-!
# Grammar — what comes first in a part, and what may follow it

One token tells how a part goes on. A sum goes on with an operator of its
own level or above, an argument list with a comma, and a part has ended
(`Part.Ends`) where the next token is none of these. What is repeated inside
a part starts with such a token or is empty, so the part before it has
ended there (`sums_end`, `products_end`, `items_end`). An operand never
starts with an operator, nor any expression with a closing parenthesis.
-/

namespace Reckon

namespace Grammar

/-- The least precedence of the operators that a part may go on with; there
are none from five on. -/
def Part.level : Part → Nat
  | expression | additive | sums | items => 2
  | multiplicative | products => 3
  | unary | exponent => 4
  | primary | arguments => 5

/-- Whether a part goes on where a token follows it. -/
def Part.goesOn (p : Part) (token : Token) : Bool :=
  token.operator?.any (p.level ≤ ·.precedence) || (p = .items && token.lexeme.is .comma)

/-- **A part has ended** where nothing follows that it goes on with. -/
def Part.Ends (p : Part) (post : List Token) : Prop :=
  ∀ token ∈ post.head?, p.goesOn token = false

variable {p q : Part} {post : List Token}

/-! ## Tokens -/

@[simp] theorem operator?_operatorToken (op : Operator) (position : Int) :
    (operatorToken op position).operator? = some op :=
  Operator.ofSpelling?_spelling op

@[simp] theorem operatorToken_is (op : Operator) (position : Int) (kind : Symbol) :
    (operatorToken op position).lexeme.is kind = decide (.operator = kind) := by
  simp [operatorToken, Lexeme.is]

@[simp] theorem mark_token_is (kind kind' : Symbol) (mark : Mark) :
    (mark.token kind).lexeme.is kind' = decide (kind = kind') := by
  simp [Mark.token, Lexeme.is]

/-- No parenthesis and no comma is an operator. -/
theorem operator?_mark {kind : Symbol} (h : kind ≠ .operator) (mark : Mark) :
    (mark.token kind).operator? = none := by
  cases kind <;> first | rfl | exact absurd rfl h

/-- A spelling belongs to one operator only. -/
theorem spelling_injective {op op' : Operator} (h : op.spelling = op'.spelling) : op = op' := by
  have := congrArg Operator.ofSpelling? h
  rw [Operator.ofSpelling?_spelling, Operator.ofSpelling?_spelling] at this
  exact Option.some.inj this

theorem operatorToken_inj {op op' : Operator} {position position' : Int} :
    operatorToken op position = operatorToken op' position' ↔ op = op' ∧ position = position' := by
  constructor
  · intro h
    simp only [operatorToken, Token.mk.injEq, Lexeme.symbol.injEq, true_and] at h
    exact ⟨spelling_injective h.1, h.2⟩
  · rintro ⟨rfl, rfl⟩
    rfl

theorem mark_token_inj {kind : Symbol} {mark mark' : Mark} :
    mark.token kind = mark'.token kind ↔ mark = mark' := by
  obtain ⟨text, position⟩ := mark
  obtain ⟨text', position'⟩ := mark'
  simp [Mark.token]

/-! ## Where a part has ended -/

theorem Part.ends_nil : p.Ends [] := by
  simp [Part.Ends]

@[simp] theorem Part.ends_cons {token : Token} :
    p.Ends (token :: post) ↔ p.goesOn token = false := by
  simp [Part.Ends]

/-- A part of a higher level has ended wherever one of a lower level has. -/
theorem Part.Ends.mono (h : p.Ends post) (hl : p.level ≤ q.level) (hq : q ≠ .items) :
    q.Ends post := by
  intro token ht
  have hp := h token ht
  simp only [Part.goesOn, Bool.or_eq_false_iff] at hp
  cases ho : token.operator? with
  | none => simp [Part.goesOn, ho, hq]
  | some op =>
    -- an operator that ends the lower level is below the higher one too
    have : op.precedence < p.level := by simpa [ho] using hp.1
    have : op.precedence < q.level := by omega
    simpa [Part.goesOn, ho, hq] using this

/-- An operator does not continue a part of a higher level. -/
theorem Part.goesOn_operatorToken {op : Operator} {position : Int} :
    p.goesOn (operatorToken op position) = decide (p.level ≤ op.precedence) := by
  simp [Part.goesOn]

/-- Every part ends at a closing parenthesis. -/
theorem Part.ends_closeParen (mark : Mark) : p.Ends (mark.token .closeParen :: post) := by
  simp [Part.goesOn, operator?_mark]

/-- Every part but a list of items ends at a comma. -/
theorem Part.ends_comma (mark : Mark) (h : p ≠ .items) : p.Ends (mark.token .comma :: post) := by
  simp [Part.goesOn, operator?_mark, h]

/-- A base ends where the operator of a power follows. -/
theorem primary_ends {op : Operator} {position : Int} (level : op.precedence = 4) :
    Part.primary.Ends (operatorToken op position :: post) := by
  simp [Part.goesOn_operatorToken, level, Part.level]

/-- A product ends where the further products of a sum begin. -/
theorem sums_end (rest : Tree .sums) (h : Part.sums.Ends post) :
    Part.multiplicative.Ends (rest.yield ++ post) := by
  cases rest with
  | lastSum => exact h.mono (by decide) (by decide)
  | sum op level position operand rest =>
    simp [Tree.yield, Part.goesOn_operatorToken, level, Part.level]

/-- A factor ends where the further factors of a product begin. -/
theorem products_end (rest : Tree .products) (h : Part.products.Ends post) :
    Part.unary.Ends (rest.yield ++ post) := by
  cases rest with
  | lastProduct => exact h.mono (by decide) (by decide)
  | product op level position operand rest =>
    simp [Tree.yield, Part.goesOn_operatorToken, level, Part.level]

/-- An argument ends where the further arguments begin. -/
theorem items_end (rest : Tree .items) (h : Part.items.Ends post) :
    Part.expression.Ends (rest.yield ++ post) := by
  cases rest with
  | lastItem => exact h.mono (by decide) (by decide)
  | item comma argument rest => exact Part.ends_comma comma (by decide)

/-! ## What comes first -/

/-- An operand starts with a token that is no operator. -/
theorem primary_head (t : Tree .primary) (post : List Token) :
    ∃ token ∈ (t.yield ++ post).head?, token.operator? = none := by
  cases t <;> exact ⟨_, rfl, rfl⟩

/-- And so does a power. -/
theorem exponent_head (t : Tree .exponent) (post : List Token) :
    ∃ token ∈ (t.yield ++ post).head?, token.operator? = none := by
  cases t with
  | single base => exact primary_head base post
  | power base op level position exponent =>
    rw [Tree.yield, List.append_assoc]
    exact primary_head base _

/-- The parts that stand for one value. -/
def Part.isOperand : Part → Bool
  | sums | products | arguments | items => false
  | _ => true

/-- What stands for a value does not start with a closing parenthesis. -/
theorem operand_head (t : Tree p) (h : p.isOperand) (post : List Token) :
    ∃ token ∈ (t.yield ++ post).head?, token.lexeme.is .closeParen = false := by
  induction t generalizing post with
  | expression sum ih => exact ih rfl post
  | additive first rest ih _ | multiplicative first rest ih _ =>
    rw [Tree.yield, List.append_assoc]
    exact ih rfl _
  | unsigned power ih => exact ih rfl post
  | single base ih => exact ih rfl post
  | power base op level position exponent ih _ =>
    rw [Tree.yield, List.append_assoc]
    exact ih rfl _
  | negation | number | constantName | variableName | call | group => exact ⟨_, rfl, rfl⟩
  | lastSum | sum | lastProduct | product | noArguments | arguments | lastItem | item =>
    cases h

/-! ## Parentheses -/

/-- **The parentheses of a tree balance:** however many are open before it,
as many are open after it. -/
theorem balancedFrom_yield (t : Tree p) (opened : Nat) (post : List Token) :
    Parser.balancedFrom opened (t.yield ++ post) = Parser.balancedFrom opened post := by
  -- a pair of parentheses opens one and closes it, all other tokens leave the count
  induction t generalizing opened post with
  | expression _ ih | unsigned _ ih | single _ ih => exact ih opened post
  | additive _ _ ih₁ ih₂ | multiplicative _ _ ih₁ ih₂ =>
    rw [Tree.yield, List.append_assoc, ih₁, ih₂]
  | lastSum | lastProduct | lastItem => rfl
  | sum _ _ _ _ _ ih₁ ih₂ | product _ _ _ _ _ ih₁ ih₂ =>
    simp [Tree.yield, Parser.balancedFrom, ih₁, ih₂]
  | negation _ _ ih => simp [Tree.yield, Parser.balancedFrom, ih]
  | power _ _ _ _ _ ih₁ ih₂ => simp [Tree.yield, Parser.balancedFrom, ih₁, ih₂]
  | number | constantName | variableName => rfl
  | call _ _ _ ih => simp [Tree.yield, Parser.balancedFrom, Lexeme.is, ih]
  | group _ _ _ ih => simp [Tree.yield, Parser.balancedFrom, ih]
  | noArguments => simp [Tree.yield, Parser.balancedFrom]
  | arguments _ _ _ _ ih₁ ih₂ | item _ _ _ ih₁ ih₂ =>
    simp [Tree.yield, Parser.balancedFrom, ih₁, ih₂]

end Grammar

end Reckon
