import Reckon.Proofs.Evaluate.Substitution
import Reckon.Proofs.Parser.HigherBound
import Reckon.Proofs.Parser.Reasons
/-!
# Evaluate — a template under a minus sign

A template in parentheses under a minus sign (`negated`) has the opposite of its
value at every point, and fails where it fails with the same error
(`evaluateAt_negated`): its text is lexed as it is by itself, and means what it
means by itself. Only the two nested parts around it have to be allowed, by
whatever number is the bound.
-/

namespace Reckon

open Grammar

variable {t : Tree .expression} {bindings : Bindings} {template : String} {q : Quantity}

/-! ## Expressions within a bound -/

/-- A value names no nesting bound. -/
theorem Grammar.Tree.value_ne_nestingExceeded (t : Tree .expression) (bound : Quantity) :
    t.value bindings ≠ .error (.nestingExceeded bound) := by
  intro h
  -- it would be the bound of every parser that allows the nesting
  have hbound : ∀ n : Nat, t.nesting ≤ n → bound = .whole n := fun n hn =>
    Parser.parse_eq_nestingExceeded (p := Parser.fresh t.yield bindings n)
      ((t.parse_yield bindings n).trans ((Tree.valueWithin_eq_value hn).trans h))
  have hsame := (hbound t.nesting (Nat.le_refl _)).symm.trans
    (hbound (t.nesting + 1) (Nat.le_succ _))
  have hcast : (t.nesting : Int) = (t.nesting + 1 : Nat) := Quantity.whole.inj hsame
  omega

/-- **What a tree derives comes to its value** under every number that it is not nested
beyond. -/
theorem Grammar.Tree.parse_of_nesting_le (t : Tree .expression) (bindings : Bindings)
    (h : t.nesting ≤ q.floor.toNat) :
    (Parser.mk ⟨t.yield.toArray, bindings, q⟩ ⟨0, 0⟩).parse.1 = t.value bindings := by
  have hvalue : (Parser.fresh t.yield bindings t.nesting).parse.1 = t.value bindings :=
    (t.parse_yield bindings t.nesting).trans (Tree.valueWithin_eq_value (Nat.le_refl _))
  have hallowed (b : Quantity) :
      (Parser.fresh t.yield bindings t.nesting).parse.1 ≠ .error (.nestingExceeded b) := by
    rw [hvalue]
    exact t.value_ne_nestingExceeded b
  have hlevels : (Quantity.whole t.nesting).floor.toNat ≤ q.floor.toNat := h
  exact (Parser.parse_of_levels hlevels hallowed).1.trans hvalue

/-- A number is accepted as a bound, or refused. -/
theorem Parser.outcome_of_quantity (tokens : List Token) (bindings : Bindings) (q : Quantity) :
    Parser.outcome tokens bindings (.quantity q) =
      if q.atLeast leastBound && q.atMost greatestBound then
        (Parser.mk ⟨tokens.toArray, bindings, q⟩ ⟨0, 0⟩).parse.1
      else .error (.boundOutOfRange q) := by
  rw [Parser.outcome, Parser.new]
  simp only [Value.number, Except.mapError_ok]
  change ((if q.atLeast leastBound && q.atMost greatestBound then
    Except.ok (Parser.mk ⟨tokens.toArray, bindings, q⟩ ⟨0, 0⟩)
    else Except.error (Error.boundOutOfRange q)) >>= fun p => p.parse.1) = _
  split <;> rfl

/-- A template that is not nested beyond the bound has its value, where the bound is accepted. -/
theorem evaluateAt_of_nesting_le (htokens : tokenize [variableName] template = .ok t.yield)
    (h : t.nesting ≤ q.floor.toNat) (x : Float) :
    evaluateAt (.quantity q) template x =
      if q.atLeast leastBound && q.atMost greatestBound then t.value [(variableName, x)]
      else .error (.boundOutOfRange q) := by
  rw [evaluateAt, Parser.evaluateWith_eq]
  simp only [List.map_cons, List.map_nil, htokens]
  exact (Parser.outcome_of_quantity _ _ q).trans (by rw [t.parse_of_nesting_le _ h])

/-! ## The minus sign -/

/-- **A template under a minus sign,** in parentheses. -/
def negated (template : String) : String :=
  "-(" ++ template ++ ")"

/-- The tree of an expression under a minus sign, in parentheses, wherever its tokens stand. -/
def Grammar.Tree.negated (t : Tree .expression) : Tree .expression :=
  let group : Tree .primary := .group ⟨"(", 1⟩ t ⟨")", 2⟩
  .ofProduct (.multiplicative (.negation 0 (.unsigned (.single group))) .lastProduct)

namespace Grammar.Tree

/-- The sign and the parentheses are two nested parts more. -/
theorem nesting_negated (t : Tree .expression) : t.negated.nesting = t.nesting + 2 := by
  simp [negated, ofProduct, nesting]

/-- The value has the other sign. -/
theorem value_negated (t : Tree .expression) :
    t.negated.value bindings = (-·) <$> t.value bindings := by
  have hinside : t.meaning bindings (fun _ => .ok ()) 2 = t.value bindings :=
    (t.meaning_of_nesting_le 0 2 (Nat.le_of_eq (Nat.zero_add _))).symm.trans
      (t.meaning_of_nesting_le 0 0 (Nat.le_of_eq (Nat.zero_add _)))
  rw [← hinside, value]
  simp only [negated, ofProduct, meaning]
  cases t.meaning bindings (fun _ => .ok ()) 2 <;> rfl

/-- The tokens say what those of the expression do, after a sign and a parenthesis. -/
theorem lexemes_negated (t : Tree .expression) :
    t.negated.yield.map (·.lexeme) =
      .symbol .operator "-" :: .symbol .openParen "(" ::
        (t.yield.map (·.lexeme) ++ [.symbol .closeParen ")"]) := by
  simp [negated, ofProduct, yield, Mark.token, operatorToken, Operator.spelling]

end Grammar.Tree

/-- The text has the tokens of the tree, at places of their own. -/
theorem tokenize_negated (htokens : tokenize [variableName] template = .ok t.yield) :
    ∃ t' : Tree .expression, tokenize [variableName] (negated template) = .ok t'.yield ∧
      t'.nesting = t.negated.nesting ∧
      ∀ bindings, t'.value bindings = t.negated.value bindings := by
  have hclosed : Scan.Spells [variableName] [')'] [.symbol .closeParen ")"] :=
    .cons (by decide) (fun _ => rfl) (fun _ => ⟨[], rfl, rfl⟩)
  have hinside := (Scan.Spells.of_tokens (Scan.tokenize_eq_ok htokens)).append (by decide) hclosed
  have hopened := Scan.Spells.cons (c := '(') (by decide) (fun _ => rfl) hinside
  have hsigned := Scan.Spells.cons (c := '-') (by decide) (fun _ => rfl) hopened
  rw [← t.lexemes_negated] at hsigned
  obtain ⟨t', htokens', hnesting, hmeaning⟩ := exists_tree_of_spells hsigned
  have htext : negated template = String.ofList ('-' :: '(' :: (template.toList ++ [')'])) := by
    rw [← String.toList_inj]
    simp [negated]
  exact ⟨t', htext ▸ htokens', hnesting, fun bindings => hmeaning _ _ _⟩

/-- **A template under a minus sign has the opposite value,** or the same error, at every point
and under every number that allows its nesting. -/
theorem evaluateAt_negated (htokens : tokenize [variableName] template = .ok t.yield)
    (h : t.negated.nesting ≤ q.floor.toNat) (x : Float) :
    evaluateAt (.quantity q) (negated template) x =
      (-·) <$> evaluateAt (.quantity q) template x := by
  obtain ⟨t', htokens', hnesting, hvalue⟩ := tokenize_negated htokens
  have hinside : t.nesting ≤ q.floor.toNat := by
    rw [t.nesting_negated] at h
    omega
  rw [evaluateAt_of_nesting_le htokens hinside,
    evaluateAt_of_nesting_le htokens' (hnesting ▸ h), hvalue, t.value_negated]
  split <;> rfl

end Reckon
