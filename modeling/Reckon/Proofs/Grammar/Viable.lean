import Reckon.Proofs.Grammar.Prefix
import Reckon.Proofs.Grammar.Reading
import Reckon.Proofs.Parser.Within
/-!
# Grammar — where a syntax error is found

A parser that stops with a syntax error stops at the earliest token that rules
out an expression: what comes before it is the beginning of one, and together
with that token it is not (`parse_diagnoses`). What was read can be completed
since every rule pinpoints its part. That the next token rules an expression out
is the other half: the run would be the same on every expression with the same
tokens so far, and no expression fails with a syntax error.
-/

namespace Reckon

namespace Grammar

/-- A token sequence is an expression where a tree derives it. -/
def IsExpression (ts : List Token) : Prop :=
  ∃ t : Tree .expression, t.yield = ts

/-- **A token sequence is viable** where some expression begins with it. -/
def Viable (ts : List Token) : Prop :=
  Part.expression.Begins ts

/-- **A syntax error diagnoses a token sequence** at an index: what comes before
the index is viable, and what stands there makes it no expression. -/
structure Diagnoses (ts : List Token) (i : Nat) (e : Error) : Prop where
  within : i ≤ ts.length
  viable : Viable (ts.take i)
  /-- The error names the token that stands there. -/
  isAt : e ≠ .trailingTokens → e.IsAt ts[i]?
  /-- Tokens are left over after an expression that does not go on with them. -/
  trailing : e = .trailingTokens →
    i < ts.length ∧ IsExpression (ts.take i) ∧ ¬ Viable (ts.take (i + 1))
  /-- A token cannot stand where it does. -/
  unexpected : e.isUnexpected → i < ts.length → ¬ Viable (ts.take (i + 1))
  /-- Something is missing at the end. -/
  incomplete : e = .missingOperand ∨ e.isUnexpected → i = ts.length → ¬ IsExpression ts
  /-- An operand is only ever missing at the end. -/
  missing : e = .missingOperand → i = ts.length

variable {ts : List Token} {bindings : Bindings} {bound calls : Nat} {c' : Parser.Cursor}
  {e : Error} {v : Float}

open Reckon.Parser

/-- The rule for an expression over other tokens that are the same until the run
has ended. -/
theorem expression_eq_of_agree {us : List Token}
    (hagree : ∀ i ≤ (endOf (expression (fresh ts bindings bound).input calls ⟨0, 0⟩)).index,
      us[i]? = ts[i]?) :
    expression (fresh us bindings bound).input calls ⟨0, 0⟩ =
      expression (fresh ts bindings bound).input calls ⟨0, 0⟩ := by
  have hshares : Shares (endOf (expression (fresh ts bindings bound).input calls ⟨0, 0⟩)).index
      (fresh ts bindings bound).input (fresh us bindings bound).input :=
    ⟨fun i hi => by simpa [fresh] using (hagree i hi).symm, rfl, rfl⟩
  exact ((rulesTogether hshares calls).expression ⟨0, 0⟩).eq_of_le (Nat.le_refl _)

/-- The rule for an expression reads all that a tree derives. -/
theorem Tree.expression_gives (t : Tree .expression) :
    Gives (Parser.expression (fresh t.yield bindings bound).input calls) ⟨0, 0⟩ t.yield.length
      (t.valueWithin bindings bound) := by
  have hrest : (fresh t.yield bindings bound).input.rest ⟨0, 0⟩ = t.yield ++ [] := by
    simp [fresh, Input.rest]
  exact t.reads (rfl : (fresh t.yield bindings bound).input.bound = .whole bound) calls hrest
    Part.ends_nil

/-- **A run with a syntax error stops in no expression** that has the same tokens
until there. -/
theorem not_agree_of_error (t : Tree .expression)
    (hrun : expression (fresh ts bindings bound).input calls ⟨0, 0⟩ = .error (.error e) c')
    (hs : e.isSyntax) : ¬ ∀ i ≤ c'.index, t.yield[i]? = ts[i]? := by
  intro hagree
  have heq : expression (fresh t.yield bindings bound).input calls ⟨0, 0⟩ = .error (.error e) c' :=
    (expression_eq_of_agree (by rw [hrun]; exact hagree)).trans hrun
  have hgives : Gives (expression (fresh t.yield bindings bound).input calls) _ _ _ :=
    t.expression_gives
  rw [Parser.Gives, heq] at hgives
  have hsemantic : Semantic (t.valueWithin bindings bound) := t.semantic_meaning 0
  rw [hsemantic e hgives] at hs
  cases hs

/-- **A run with a value has read all of an expression** that has the same tokens
and the one after. -/
theorem length_of_agree (t : Tree .expression)
    (hrun : expression (fresh ts bindings bound).input calls ⟨0, 0⟩ = .ok v c')
    (hagree : ∀ i ≤ c'.index, t.yield[i]? = ts[i]?) : t.yield.length = c'.index := by
  have heq : expression (fresh t.yield bindings bound).input calls ⟨0, 0⟩ = .ok v c' :=
    (expression_eq_of_agree (by rw [hrun]; exact hagree)).trans hrun
  have hgives : Gives (expression (fresh t.yield bindings bound).input calls) _ _ _ :=
    t.expression_gives
  rw [Parser.Gives, heq] at hgives
  rw [hgives.2, Cursor.forward_index, Nat.zero_add]

/-- Where one more token is viable, an expression has the same tokens up to it. -/
theorem Viable.exists_agree {i : Nat} (h : Viable (ts.take (i + 1))) (hi : i < ts.length) :
    ∃ t : Tree .expression, i + 1 ≤ t.yield.length ∧ ∀ j ≤ i, t.yield[j]? = ts[j]? := by
  obtain ⟨t, post, ht⟩ := h
  have hlength : (ts.take (i + 1)).length = i + 1 := by
    rw [List.length_take]
    omega
  refine ⟨t, ?_, fun j hj => ?_⟩
  · rw [ht, List.length_append, hlength]
    omega
  · rw [ht, List.getElem?_append_left (by omega), List.getElem?_take_of_lt (by omega)]

/-- A syntax error of a parser comes from the rule for an expression, or tokens
are left after its value. -/
theorem parse_eq_syntax {p : Parser} (h : p.parse.1 = .error e) (hs : e.isSyntax) :
    expression p.input (callLimit p.input.levels) p.cursor =
        .error (.error e) p.parse.2.cursor ∨
      e = .trailingTokens ∧ p.parse.2.cursor.index < p.input.tokens.size ∧
        ∃ v, expression p.input (callLimit p.input.levels) p.cursor = .ok v p.parse.2.cursor := by
  simp only [parse, rule, run, Rule.action, checkParentheses] at h ⊢
  split at h
  · next hbalance =>
    split at hbalance
    · cases hbalance
    · cases hbalance
      cases h
      cases hs
  · rcases hrun : expression p.input (callLimit p.input.levels) p.cursor with ⟨v, c⟩ | ⟨e' | -, c⟩
    · rw [hrun] at h
      simp only at h ⊢
      split at h
      · next hleft =>
        cases h
        refine .inr ⟨rfl, ?_⟩
        rw [if_pos hleft]
        exact ⟨hleft, v, rfl⟩
      · cases h
    · rw [hrun] at h
      cases h
      exact .inl rfl
    · rw [hrun] at h
      cases h
      cases hs

/-- What a run over a token sequence has read is what comes before the cursor. -/
theorem read_eq_take {read : List Token}
    (h : (fresh ts bindings bound).input.rest ⟨0, 0⟩ =
      read ++ (fresh ts bindings bound).input.rest c') : read = ts.take c'.index := by
  have heq : ts.take c'.index ++ ts.drop c'.index = read ++ ts.drop c'.index := by
    rw [List.take_append_drop]
    simpa [fresh, Input.rest] using h
  exact (List.append_cancel_right heq).symm

/-- Where the rule stops with a syntax error, no expression has the same tokens up to
where it did. -/
theorem diagnoses_of_error
    (hrun : expression (fresh ts bindings bound).input calls ⟨0, 0⟩ = .error (.error e) c')
    (hs : e.isSyntax) : Diagnoses ts c'.index e := by
  have hbound : (fresh ts bindings bound).input.bound = .whole bound := rfl
  have hwithin : c'.index ≤ ts.length := by
    have hend := (rulesWithin (fresh ts bindings bound).input calls).expression ⟨0, 0⟩
      (Nat.zero_le _)
    rw [hrun] at hend
    simpa [fresh] using hend
  obtain ⟨read, hbegins, hread, hat⟩ := (rulesPinpoint hbound calls).expression hrun hs
  obtain rfl := read_eq_take hread
  have hat : e.IsAt ts[c'.index]? := by simpa [fresh, Input.rest] using hat
  exact {
    within := hwithin
    viable := hbegins
    isAt := fun _ => hat
    trailing := by
      rintro rfl
      exact hat.elim
    unexpected := by
      intro _ hi hviable
      obtain ⟨t, -, hagree⟩ := hviable.exists_agree hi
      exact not_agree_of_error t hrun hs hagree
    incomplete := by
      rintro _ _ ⟨t, ht⟩
      exact not_agree_of_error t hrun hs fun _ _ => by rw [ht]
    missing := by
      rintro rfl
      have := List.getElem?_eq_none_iff.mp hat
      omega }

/-- Where it has a value and tokens are left, an expression that goes on would have
been read further. -/
theorem diagnoses_of_value
    (hrun : expression (fresh ts bindings bound).input calls ⟨0, 0⟩ = .ok v c')
    (hi : c'.index < ts.length) : Diagnoses ts c'.index .trailingTokens := by
  have hbound : (fresh ts bindings bound).input.bound = .whole bound := rfl
  obtain ⟨t, ht, -⟩ := (rulesDerive hbound calls).expression hrun
  have hyield := read_eq_take ht
  exact {
    within := Nat.le_of_lt hi
    viable := ⟨t, [], by rw [hyield, List.append_nil]⟩
    isAt := fun h => absurd rfl h
    trailing := by
      refine fun _ => ⟨hi, ⟨t, hyield⟩, fun hviable => ?_⟩
      obtain ⟨u, hlength, hagree⟩ := hviable.exists_agree hi
      have := length_of_agree u hrun hagree
      omega
    unexpected := by
      intro h
      cases h
    incomplete := by
      rintro (h | h) <;> cases h
    missing := by
      intro h
      cases h }

/-- **The correct-prefix property.** A parser that stops with a syntax error stops
where the tokens before the cursor are the beginning of an expression, and those
up to the next one are not; at the end, where they are no whole expression. -/
theorem parse_diagnoses (ts : List Token) (bindings : Bindings) (bound : Nat)
    (hleast : 1 ≤ bound) (hgreatest : bound ≤ 114) :
    ∃ p, Parser.new ts bindings (.whole bound) = .ok p ∧
      ∀ e, p.parse.1 = .error e → e.isSyntax → Diagnoses ts p.parse.2.cursor.index e := by
  refine ⟨fresh ts bindings bound, new_eq_fresh hleast hgreatest, fun e h hs => ?_⟩
  rcases parse_eq_syntax h hs with hrun | ⟨rfl, hleft, v, hrun⟩
  · exact diagnoses_of_error hrun hs
  · exact diagnoses_of_value hrun (by simpa [fresh] using hleft)

/-- The tokens of `(7+)`, where the second operand is missing. -/
def sumWithoutOperand : List Token :=
  [⟨.symbol .openParen "(", 0⟩, ⟨.number 7, 1⟩, ⟨.symbol .operator "+", 2⟩,
    ⟨.symbol .closeParen ")", 3⟩]

/-- The parser stops at the closing parenthesis: `(7+` is the beginning of an
expression, and `(7+)` is not. -/
theorem sumWithoutOperand_unexpected :
    ∃ p, Parser.new sumWithoutOperand [] (.whole 1) = .ok p ∧
      p.parse.1 = .error (.unexpected ⟨.symbol .closeParen ")", 3⟩) ∧
      Viable (sumWithoutOperand.take 3) ∧ ¬ Viable (sumWithoutOperand.take 4) := by
  obtain ⟨p, hp, h⟩ := parse_diagnoses sumWithoutOperand [] 1 (by decide) (by decide)
  obtain rfl : fresh sumWithoutOperand [] 1 = p := Except.ok.inj hp
  have herror : (fresh sumWithoutOperand [] 1).parse.1 =
      .error (.unexpected ⟨.symbol .closeParen ")", 3⟩) := rfl
  have hindex : (fresh sumWithoutOperand [] 1).parse.2.cursor.index = 3 := rfl
  have hdiagnoses := h _ herror rfl
  rw [hindex] at hdiagnoses
  exact ⟨_, hp, herror, hdiagnoses.viable, hdiagnoses.unexpected rfl (by decide)⟩

end Grammar

end Reckon
