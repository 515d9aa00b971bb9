import Reckon.Proofs.Grammar.Follow
/-!
# Grammar — one tree for a token sequence

The grammar is unambiguous: the tokens of a part, with what follows it,
determine the tree and where it ends (`Tree.isDetermined`). In each case
one token decides: whether a repetition goes on, whether a power or a minus
sign is there, and which operand it is.
-/

namespace Reckon

namespace Grammar

variable {p : Part}

/-- A part that has ended does not go on with an operator of its level. -/
theorem not_ends_operatorToken {op : Operator} {position : Int} {post : List Token}
    (level : op.precedence = p.level) : ¬ p.Ends (operatorToken op position :: post) := by
  simp [Part.goesOn_operatorToken, level]

/-- What starts with an operator is no power. -/
theorem exponent_ne_operatorToken (t : Tree .exponent) {op : Operator} {position : Int}
    {post post' : List Token} : t.yield ++ post ≠ operatorToken op position :: post' := by
  intro h
  obtain ⟨token, ht, ho⟩ := exponent_head t post
  rw [h] at ht
  obtain rfl : operatorToken op position = token := by simpa using ht
  simp at ho

/-- What starts with a closing parenthesis is no expression. -/
theorem expression_ne_closeParen (t : Tree .expression) {mark : Mark} {post post' : List Token} :
    t.yield ++ post ≠ mark.token .closeParen :: post' := by
  intro h
  obtain ⟨token, ht, hk⟩ := operand_head t rfl post
  rw [h] at ht
  obtain rfl : mark.token .closeParen = token := by simpa using ht
  simp at hk

/-- **A tree is determined** by its tokens and what follows them, where its part has
ended there. -/
def Tree.IsDetermined (t : Tree p) : Prop :=
  ∀ ⦃t' : Tree p⦄ ⦃post post' : List Token⦄, p.Ends post → p.Ends post' →
    t.yield ++ post = t'.yield ++ post' → t = t' ∧ post = post'

namespace Tree.IsDetermined

/-! ## Sums and products

What is repeated begins where the part before it has ended, so the first parts agree. -/

theorem expression {sum : Tree .additive} (hsum : sum.IsDetermined) :
    (Tree.expression sum).IsDetermined := by
  intro t' post post' he he' h
  cases t' with
  | expression sum' =>
    obtain ⟨rfl, rfl⟩ := hsum he he' h
    exact ⟨rfl, rfl⟩

theorem additive {first : Tree .multiplicative} {rest : Tree .sums}
    (hfirst : first.IsDetermined) (hrest : rest.IsDetermined) :
    (Tree.additive first rest).IsDetermined := by
  intro t' post post' he he' h
  cases t' with
  | additive first' rest' =>
    simp only [yield, List.append_assoc] at h
    obtain ⟨rfl, h'⟩ := hfirst (sums_end rest he) (sums_end rest' he') h
    obtain ⟨rfl, rfl⟩ := hrest he he' h'
    exact ⟨rfl, rfl⟩

theorem multiplicative {first : Tree .unary} {rest : Tree .products}
    (hfirst : first.IsDetermined) (hrest : rest.IsDetermined) :
    (Tree.multiplicative first rest).IsDetermined := by
  intro t' post post' he he' h
  cases t' with
  | multiplicative first' rest' =>
    simp only [yield, List.append_assoc] at h
    obtain ⟨rfl, h'⟩ := hfirst (products_end rest he) (products_end rest' he') h
    obtain ⟨rfl, rfl⟩ := hrest he he' h'
    exact ⟨rfl, rfl⟩

theorem lastSum : Tree.lastSum.IsDetermined := by
  intro t' post post' he he' h
  cases t' with
  | lastSum => exact ⟨rfl, h⟩
  | sum op level position operand rest =>
    -- one tree has no more sums where the other has one: its part would not have ended
    simp only [yield, List.nil_append, List.cons_append] at h
    exact absurd (h ▸ he) (not_ends_operatorToken level)

theorem sum {op : Operator} {level : op.precedence = 2} {position : Int}
    {operand : Tree .multiplicative} {rest : Tree .sums}
    (hoperand : operand.IsDetermined) (hrest : rest.IsDetermined) :
    (Tree.sum op level position operand rest).IsDetermined := by
  intro t' post post' he he' h
  cases t' with
  | lastSum =>
    simp only [yield, List.nil_append, List.cons_append] at h
    exact absurd (h ▸ he') (not_ends_operatorToken level)
  | sum op' level' position' operand' rest' =>
    simp only [yield, List.cons_append, List.append_assoc, List.cons.injEq,
      operatorToken_inj] at h
    obtain ⟨⟨rfl, rfl⟩, h⟩ := h
    obtain ⟨rfl, h'⟩ := hoperand (sums_end rest he) (sums_end rest' he') h
    obtain ⟨rfl, rfl⟩ := hrest he he' h'
    exact ⟨rfl, rfl⟩

theorem lastProduct : Tree.lastProduct.IsDetermined := by
  intro t' post post' he he' h
  cases t' with
  | lastProduct => exact ⟨rfl, h⟩
  | product op level position operand rest =>
    simp only [yield, List.nil_append, List.cons_append] at h
    exact absurd (h ▸ he) (not_ends_operatorToken level)

theorem product {op : Operator} {level : op.precedence = 3} {position : Int}
    {operand : Tree .unary} {rest : Tree .products}
    (hoperand : operand.IsDetermined) (hrest : rest.IsDetermined) :
    (Tree.product op level position operand rest).IsDetermined := by
  intro t' post post' he he' h
  cases t' with
  | lastProduct =>
    simp only [yield, List.nil_append, List.cons_append] at h
    exact absurd (h ▸ he') (not_ends_operatorToken level)
  | product op' level' position' operand' rest' =>
    simp only [yield, List.cons_append, List.append_assoc, List.cons.injEq,
      operatorToken_inj] at h
    obtain ⟨⟨rfl, rfl⟩, h⟩ := h
    obtain ⟨rfl, h'⟩ := hoperand (products_end rest he) (products_end rest' he') h
    obtain ⟨rfl, rfl⟩ := hrest he he' h'
    exact ⟨rfl, rfl⟩

/-! ## Signs and powers -/

theorem negation {position : Int} {operand : Tree .unary} (hoperand : operand.IsDetermined) :
    (Tree.negation position operand).IsDetermined := by
  intro t' post post' he he' h
  cases t' with
  | negation position' operand' =>
    simp only [yield, List.cons_append, List.cons.injEq, operatorToken_inj, true_and] at h
    obtain ⟨rfl, h⟩ := h
    obtain ⟨rfl, rfl⟩ := hoperand he he' h
    exact ⟨rfl, rfl⟩
  | unsigned power =>
    simp only [yield, List.cons_append] at h
    -- a minus sign starts no power
    exact absurd h.symm (exponent_ne_operatorToken power)

theorem unsigned {power : Tree .exponent} (hpower : power.IsDetermined) :
    (Tree.unsigned power).IsDetermined := by
  intro t' post post' he he' h
  cases t' with
  | negation position operand =>
    simp only [yield, List.cons_append] at h
    exact absurd h (exponent_ne_operatorToken power)
  | unsigned power' =>
    obtain ⟨rfl, rfl⟩ := hpower he he' h
    exact ⟨rfl, rfl⟩

theorem single {base : Tree .primary} (hbase : base.IsDetermined) :
    (Tree.single base).IsDetermined := by
  intro t' post post' he he' h
  have hends : Part.primary.Ends post := he.mono (by decide) (by decide)
  cases t' with
  | single base' =>
    obtain ⟨rfl, rfl⟩ := hbase hends (he'.mono (by decide) (by decide)) h
    exact ⟨rfl, rfl⟩
  | power base' op level position exponent =>
    simp only [yield, List.append_assoc, List.cons_append] at h
    -- the operator of the power would follow the base, which has ended
    obtain ⟨rfl, rfl⟩ := hbase hends (primary_ends level) h
    exact absurd he (not_ends_operatorToken level)

theorem power {base : Tree .primary} {op : Operator} {level : op.precedence = 4} {position : Int}
    {exponent : Tree .unary} (hbase : base.IsDetermined) (hexponent : exponent.IsDetermined) :
    (Tree.power base op level position exponent).IsDetermined := by
  intro t' post post' he he' h
  cases t' with
  | single base' =>
    simp only [yield, List.append_assoc, List.cons_append] at h
    obtain ⟨rfl, rfl⟩ := hbase (primary_ends level) (he'.mono (by decide) (by decide)) h
    exact absurd he' (not_ends_operatorToken level)
  | power base' op' level' position' exponent' =>
    simp only [yield, List.append_assoc, List.cons_append] at h
    obtain ⟨rfl, ho⟩ := hbase (primary_ends level) (primary_ends level') h
    simp only [List.cons.injEq, operatorToken_inj] at ho
    obtain ⟨⟨rfl, rfl⟩, h'⟩ := ho
    obtain ⟨rfl, rfl⟩ := hexponent he he' h'
    exact ⟨rfl, rfl⟩

/-! ## Operands

The first token says which operand it is. -/

theorem call {name : String} {position : Int} {args : Tree .arguments}
    (hargs : args.IsDetermined) : (Tree.call name position args).IsDetermined := by
  intro t' post post' he he' h
  cases t' with
  | call name' position' args' =>
    simp only [yield, List.cons_append, List.cons.injEq, Token.mk.injEq,
      Lexeme.symbol.injEq, true_and] at h
    obtain ⟨⟨rfl, rfl⟩, h⟩ := h
    obtain ⟨rfl, rfl⟩ :=
      hargs (he.mono (by decide) (by decide)) (he'.mono (by decide) (by decide)) h
    exact ⟨rfl, rfl⟩
  | _ => simp [yield, Mark.token] at h

theorem group {opening closing : Mark} {inside : Tree .expression}
    (hinside : inside.IsDetermined) : (Tree.group opening inside closing).IsDetermined := by
  intro t' post post' he he' h
  cases t' with
  | group opening' inside' closing' =>
    simp only [yield, List.cons_append, List.append_assoc, List.nil_append, List.cons.injEq,
      mark_token_inj] at h
    obtain ⟨rfl, h⟩ := h
    obtain ⟨rfl, hm⟩ := hinside (Part.ends_closeParen closing) (Part.ends_closeParen closing') h
    simp only [List.cons.injEq, mark_token_inj] at hm
    obtain ⟨rfl, rfl⟩ := hm
    exact ⟨rfl, rfl⟩
  | _ => simp [yield, Mark.token] at h

/-! ## Arguments -/

theorem noArguments {opening closing : Mark} :
    (Tree.noArguments opening closing).IsDetermined := by
  intro t' post post' he he' h
  cases t' with
  | noArguments opening' closing' =>
    simp only [yield, List.cons_append, List.nil_append, List.cons.injEq, mark_token_inj] at h
    obtain ⟨rfl, rfl, rfl⟩ := h
    exact ⟨rfl, rfl⟩
  | arguments opening' first rest closing' =>
    simp only [yield, List.cons_append, List.nil_append, List.append_assoc, List.cons.injEq] at h
    exact absurd h.2.symm (expression_ne_closeParen first)

theorem arguments {opening closing : Mark} {first : Tree .expression} {rest : Tree .items}
    (hfirst : first.IsDetermined) (hrest : rest.IsDetermined) :
    (Tree.arguments opening first rest closing).IsDetermined := by
  intro t' post post' he he' h
  cases t' with
  | noArguments opening' closing' =>
    simp only [yield, List.cons_append, List.nil_append, List.append_assoc, List.cons.injEq] at h
    exact absurd h.2 (expression_ne_closeParen first)
  | arguments opening' first' rest' closing' =>
    simp only [yield, List.cons_append, List.nil_append, List.append_assoc, List.cons.injEq,
      mark_token_inj] at h
    obtain ⟨rfl, h⟩ := h
    have hc : Part.items.Ends (closing.token .closeParen :: post) := Part.ends_closeParen closing
    have hc' : Part.items.Ends (closing'.token .closeParen :: post') :=
      Part.ends_closeParen closing'
    obtain ⟨rfl, hr⟩ := hfirst (items_end rest hc) (items_end rest' hc') h
    obtain ⟨rfl, hm⟩ := hrest hc hc' hr
    simp only [List.cons.injEq, mark_token_inj] at hm
    obtain ⟨rfl, rfl⟩ := hm
    exact ⟨rfl, rfl⟩

theorem lastItem : Tree.lastItem.IsDetermined := by
  intro t' post post' he he' h
  cases t' with
  | lastItem => exact ⟨rfl, h⟩
  | item comma argument rest =>
    simp only [yield, List.nil_append, List.cons_append] at h
    subst h
    simp [Part.goesOn] at he

theorem item {comma : Mark} {argument : Tree .expression} {rest : Tree .items}
    (hargument : argument.IsDetermined) (hrest : rest.IsDetermined) :
    (Tree.item comma argument rest).IsDetermined := by
  intro t' post post' he he' h
  cases t' with
  | lastItem =>
    simp only [yield, List.nil_append, List.cons_append] at h
    subst h
    simp [Part.goesOn] at he'
  | item comma' argument' rest' =>
    simp only [yield, List.cons_append, List.append_assoc, List.cons.injEq, mark_token_inj] at h
    obtain ⟨rfl, h⟩ := h
    obtain ⟨rfl, h'⟩ := hargument (items_end rest he) (items_end rest' he') h
    obtain ⟨rfl, rfl⟩ := hrest he he' h'
    exact ⟨rfl, rfl⟩

end Tree.IsDetermined

/-! ## Trees -/

/-- **The tokens of a part determine its tree,** and what follows it. -/
theorem Tree.isDetermined (t : Tree p) : t.IsDetermined := by
  induction t with
  | expression sum ih => exact .expression ih
  | additive first rest ih₁ ih₂ => exact .additive ih₁ ih₂
  | lastSum => exact .lastSum
  | sum op level position operand rest ih₁ ih₂ => exact .sum ih₁ ih₂
  | multiplicative first rest ih₁ ih₂ => exact .multiplicative ih₁ ih₂
  | lastProduct => exact .lastProduct
  | product op level position operand rest ih₁ ih₂ => exact .product ih₁ ih₂
  | negation position operand ih => exact .negation ih
  | unsigned power ih => exact .unsigned ih
  | single base ih => exact .single ih
  | power base op level position exponent ih₁ ih₂ => exact .power ih₁ ih₂
  | number value position | constantName value position | variableName value position =>
    intro t' post post' he he' h
    cases t' <;> simp_all [Tree.yield, Mark.token]
  | call name position args ih => exact .call ih
  | group opening inside closing ih => exact .group ih
  | noArguments opening closing => exact .noArguments
  | arguments opening first rest closing ih₁ ih₂ => exact .arguments ih₁ ih₂
  | lastItem => exact .lastItem
  | item comma argument rest ih₁ ih₂ => exact .item ih₁ ih₂

/-- **A token sequence is derived by one tree at most.** -/
theorem yield_injective {t t' : Tree p} (h : t.yield = t'.yield) : t = t' :=
  (t.isDetermined Part.ends_nil Part.ends_nil (by rw [h])).1

end Grammar

end Reckon
