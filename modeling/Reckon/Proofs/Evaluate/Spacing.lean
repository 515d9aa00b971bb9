import Reckon.Proofs.Parser.Places
import Reckon.Proofs.Token.Names
import Reckon.Proofs.Token.Spacing
/-!
# Evaluate — expressions with other blanks

The blanks of an expression only say where its tokens are parted. With other
ones before, after and between its tokens it has the same tokens at other
places, and it comes to the same value or fails for the same reason, whatever
names are declared (`evaluate_respaced`).
-/

namespace Reckon

variable {declared : List String} {expression expression' : String} {ts ts' : List Token}

/-- Under other declared names an expression has the same tokens, or fails for its
first name that is not declared. -/
theorem tokenize_redeclared (h : tokenize declared expression = .ok ts)
    (declared' : List String) :
    tokenize declared' expression = Scan.redeclare declared' ts := by
  have htokens : Scan.tokens declared' 0 0 expression.toList = Scan.redeclare declared' ts :=
    Scan.tokens_redeclared _ 0 0 ts (Scan.tokenize_eq_ok h)
  rw [tokenize] at h ⊢
  split at h
  · cases h
  · next hblank => exact (if_neg hblank).trans htokens

/-- Expressions whose tokens say the same come to the same, at other places. -/
theorem evaluateWith_of_lexemes (h : tokenize declared expression = .ok ts)
    (h' : tokenize declared expression' = .ok ts')
    (hwords : ts'.map (·.lexeme) = ts.map (·.lexeme)) (bindings : Bindings) (bound : Value) :
    (evaluateWith bindings bound expression').mapError Error.unplaced =
      (evaluateWith bindings bound expression).mapError Error.unplaced := by
  rw [Parser.evaluateWith_eq, Parser.evaluateWith_eq, tokenize_redeclared h, tokenize_redeclared h',
    Scan.redeclare, Scan.redeclare, hwords]
  cases (ts.map (·.lexeme)).findSome? (Scan.undeclaredName? (bindings.map (·.1))) with
  | some name => rfl
  | none => exact Parser.outcome_of_lexemes hwords bindings bound

/-- **Other blanks make no difference.** An expression with tokens has them at their
places with blanks around them, and with other blanks there, none of which is closed up
between two tokens, it has the same tokens; and it comes to the same value as an
expression and at every point, or fails for the same reason, which may name a token at
another place. -/
theorem evaluate_respaced (declared : List String) (expression : String) (ts : List Token)
    (h : tokenize declared expression = .ok ts) :
    Scan.Respaced ts expression.toList expression.toList ∧
      ∀ expression' : String, Scan.Respaced ts expression.toList expression'.toList →
        (∃ ts', tokenize declared expression' = .ok ts' ∧
          ts'.map (·.lexeme) = ts.map (·.lexeme)) ∧
        ∀ bound,
          (evaluate bound expression').mapError Error.unplaced =
            (evaluate bound expression).mapError Error.unplaced ∧
          ∀ x, (evaluateAt bound expression' x).mapError Error.unplaced =
            (evaluateAt bound expression x).mapError Error.unplaced := by
  have htokens := Scan.tokenize_eq_ok h
  refine ⟨Scan.respaced_self htokens, fun expression' hrespaced => ?_⟩
  obtain ⟨ts', hts', hwords⟩ := hrespaced.spells htokens 0
  have hne : ts' ≠ [] := by
    rintro rfl
    exact (Scan.tokenize_eq_ok_iff.mp h).2 (List.map_eq_nil_iff.mp hwords.symm)
  have h' : tokenize declared expression' = .ok ts' := by
    rw [← String.ofList_toList (s := expression')]
    exact Scan.tokenize_of_tokens hts' hne
  exact ⟨⟨ts', h', hwords⟩, fun bound =>
    ⟨evaluateWith_of_lexemes h h' hwords [] bound,
      fun x => evaluateWith_of_lexemes h h' hwords [(variableName, x)] bound⟩⟩

/-- The tokens of `2**e-x`. -/
def powerTokens : List Token :=
  [⟨.number 2, 0⟩, ⟨.symbol .operator "**", 1⟩, ⟨.symbol .constantName "e", 3⟩,
    ⟨.symbol .operator "-", 4⟩, ⟨.symbol .variableName "x", 5⟩]

/-- So blanks may part the number from the stars, the stars from the name, and the sign
from what follows it, though a number may go on with a name and a star with another. -/
theorem evaluateAt_parted :
    tokenize [variableName] "2**e-x" = .ok powerTokens ∧
      Scan.Respaced powerTokens "2**e-x".toList " 2 ** e-\tx".toList ∧
      (∃ ts, tokenize [variableName] " 2 ** e-\tx" = .ok ts ∧
        ts.map (·.lexeme) = powerTokens.map (·.lexeme)) ∧
      ∀ x, (evaluateAt (.whole 1) " 2 ** e-\tx" x).mapError Error.unplaced =
        (evaluateAt (.whole 1) "2**e-x" x).mapError Error.unplaced := by
  have htokens : tokenize [variableName] "2**e-x" = .ok powerTokens := rfl
  have hrespaced : Scan.Respaced powerTokens "2**e-x".toList " 2 ** e-\tx".toList := by
    refine ⟨[], [' '], ['2', '*', '*', 'e', '-', 'x'],
      ['2', ' ', '*', '*', ' ', 'e', '-', '\t', 'x'], by decide, by decide, rfl, rfl, ?_⟩
    exact .insert ['2'] [' '] rfl (by decide) (by decide) <|
      .insert ['*', '*'] [' '] rfl (by decide) (by decide) <|
      .insert ['e'] [] rfl (by decide) (by decide) <|
      .insert ['-'] ['\t'] rfl (by decide) (by decide) <|
      .insert ['x'] [] rfl (by decide) (by decide) .last
  obtain ⟨-, h⟩ := evaluate_respaced [variableName] "2**e-x" powerTokens htokens
  obtain ⟨hsame, hvalues⟩ := h " 2 ** e-\tx" hrespaced
  exact ⟨htokens, hrespaced, hsame, (hvalues (.whole 1)).2⟩

end Reckon
