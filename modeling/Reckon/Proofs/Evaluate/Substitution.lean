import Reckon.Proofs.Grammar.Reading
import Reckon.Proofs.Grammar.Relocated
import Reckon.Proofs.Grammar.Substitution
import Reckon.Proofs.Token.Filled
/-!
# Evaluate — the variable and a text in its place

A template at a point comes to what it comes to with an expression of that
value in place of the variable, in parentheses (`evaluate_substituted`): the
texts spell the same but for the variables, a group has the value of what it
holds wherever it stands, and the parts are evaluated in the same order. Only
the parentheses, which are nested, may be refused where the variable is not.
-/

namespace Reckon

open Grammar

/-- What stands for the variable: an expression between parentheses. -/
def inPlace (inner : Tree .expression) (name : String) (position : Int) : Tree .primary :=
  if name = variableName then .group ⟨"(", position⟩ inner ⟨")", position⟩
  else .variableName name position

variable {bound : Nat} {v : Float} {inner t : Tree .expression}

/-- It spells what the text between parentheses does. -/
theorem lexemes_inPlace (name : String) (position : Int) :
    (inPlace inner name position).yield.map (·.lexeme) =
      Scan.filledLexemes (inner.yield.map (·.lexeme)) ⟨.symbol .variableName name, position⟩ := by
  by_cases hname : name = variableName
  · simp [inPlace, Scan.filledLexemes, hname, Tree.yield, Mark.token]
  · simp [inPlace, Scan.filledLexemes, hname, Tree.yield]

/-- It means what the variable does, unless it is refused for its nesting. -/
theorem inPlace_orRefused (h : inner.valueWithin [] bound = .ok v) (name : String)
    (position : Int) (depth : Nat) :
    OrRefused bound ((inPlace inner name position).meaning [] (Tree.withinBound bound) depth)
      (boundValue [(variableName, v)] name) := by
  by_cases hname : name = variableName
  · subst hname
    have hvalue : boundValue [(variableName, v)] variableName = .ok v := rfl
    rw [inPlace, if_pos rfl, hvalue]
    exact Tree.group_orRefused h _ _ depth
  · have hother : (name == variableName) = false := beq_false_of_ne hname
    have hunbound : boundValue [(variableName, v)] name = boundValue [] name := by
      rw [boundValue, boundValue, List.lookup_cons, hother]
    rw [inPlace, if_neg hname, hunbound]
    exact .same _

/-- An expression with a value has a tree that has it, whose tokens the text
spells. -/
theorem exists_tree_of_evaluate {expression : String} (hleast : 1 ≤ bound) (hgreatest : bound ≤ 114)
    (h : evaluate (.whole bound) expression = .ok v) : ∃ inner : Tree .expression,
      Scan.Spells [] expression.toList (inner.yield.map (·.lexeme)) ∧
        inner.valueWithin [] bound = .ok v := by
  rw [evaluate, Parser.evaluateWith_eq] at h
  obtain ⟨ts, hts, houtcome⟩ := Except.bind_eq_ok_iff.mp h
  obtain ⟨inner, rfl, hvalue⟩ := exists_tree_of_outcome hleast hgreatest houtcome
  exact ⟨inner, .of_tokens (Scan.tokenize_eq_ok hts), hvalue⟩

/-- A text that spells what a tree derives has the tokens of a tree that is nested as deeply and
means the same. -/
theorem exists_tree_of_spells {declared : List String} {s : List Char}
    (h : Scan.Spells declared s (t.yield.map (·.lexeme))) :
    ∃ t' : Tree .expression, tokenize declared (String.ofList s) = .ok t'.yield ∧
      t'.nesting = t.nesting ∧
      ∀ bindings gate depth, t'.meaning bindings gate depth = t.meaning bindings gate depth := by
  obtain ⟨ts, hts, hwords⟩ := h 0
  obtain ⟨t', rfl, hnesting, hmeaning⟩ := exists_relocated t hwords
  have hne : t'.yield ≠ [] := by
    intro hnil
    obtain ⟨token, hhead, -⟩ := operand_head t' rfl []
    rw [hnil] at hhead
    cases hhead
  exact ⟨t', Scan.tokenize_of_tokens hts hne, hnesting, hmeaning⟩

/-- A text that spells what a tree derives comes to what the tree means. -/
theorem evaluate_of_spells {s : List Char} (hleast : 1 ≤ bound) (hgreatest : bound ≤ 114)
    (h : Scan.Spells [] s (t.yield.map (·.lexeme))) :
    evaluate (.whole bound) (String.ofList s) = t.valueWithin [] bound := by
  obtain ⟨t', htokens, -, hmeaning⟩ := exists_tree_of_spells h
  rw [evaluate, Parser.evaluateWith_eq]
  simp only [List.map_nil, htokens]
  exact (t'.outcome_yield hleast hgreatest).trans (hmeaning _ _ _)

/-- **A value for the variable and an expression in its place are the same,** unless
the parentheses around the expression are nested too deeply. -/
theorem evaluate_substituted (template expression : String) (t : Tree .expression) (bound : Nat)
    (v : Float) (hleast : 1 ≤ bound) (hgreatest : bound ≤ 114)
    (htemplate : tokenize [variableName] template = .ok t.yield)
    (hexpression : evaluate (.whole bound) expression = .ok v)
    (hnesting : evaluate (.whole bound) (substituted template expression) ≠
      .error (.nestingExceeded (.whole bound))) :
    evaluate (.whole bound) (substituted template expression) =
      evaluateAt (.whole bound) template v := by
  obtain ⟨inner, hinner, hvalue⟩ := exists_tree_of_evaluate hleast hgreatest hexpression
  -- the text with the expression in it spells the tree with the expression in it
  have hspells := Scan.spells_filled hinner template.toList 0 t.yield
    (Scan.tokenize_eq_ok htemplate)
  have hother (token : Token) (h : token.lexeme.is .variableName = false) :
      Scan.filledLexemes (inner.yield.map (·.lexeme)) token = [token.lexeme] :=
    Scan.filledLexemes_of_not_is h
  rw [← Tree.lexemes_substitute lexemes_inPlace hother] at hspells
  have hfilled : evaluate (.whole bound) (substituted template expression) =
      (t.substitute (inPlace inner)).valueWithin [] bound := by
    rw [substituted, htemplate]
    exact evaluate_of_spells hleast hgreatest hspells
  have hpoint : evaluateAt (.whole bound) template v =
      t.valueWithin [(variableName, v)] bound := by
    rw [evaluateAt, Parser.evaluateWith_eq]
    simp only [List.map_cons, List.map_nil, htemplate]
    exact t.outcome_yield hleast hgreatest
  rw [hfilled] at hnesting ⊢
  rw [hpoint]
  have hmeaning : OrRefused bound ((t.substitute (inPlace inner)).valueWithin [] bound)
      (t.valueWithin [(variableName, v)] bound) :=
    Tree.orRefused_substitute (fun _ => .same _) (inPlace_orRefused hvalue) t 0
  exact hmeaning.resolve_left hnesting

/-- The tree of `-x^2`. -/
def negatedSquare : Tree .expression :=
  let square : Tree .exponent := .raised (.variableName variableName 1) (.number 2 3) 2
  .ofProduct (.multiplicative (.negation 0 (.unsigned square)) .lastProduct)

/-- The tokens of `-(-3)^2`. -/
def negatedSquareTokens : List Token :=
  [operatorToken .minus 0, Mark.token .openParen ⟨"(", 1⟩, operatorToken .minus 2, ⟨.number 3, 3⟩,
    Mark.token .closeParen ⟨")", 4⟩, operatorToken .caret 5, ⟨.number 2, 6⟩]

/-- So `-x^2` at -3 is `-(-3)^2`, the square with its sign and not the square of the
opposite. -/
theorem negatedSquare_substituted :
    substituted "-x^2" "-3" = "-(-3)^2" ∧
      evaluate (.whole 3) "-(-3)^2" = .ok (-(Number.power (-3) 2)) ∧
      evaluateAt (.whole 3) "-x^2" (-3) = evaluate (.whole 3) "-(-3)^2" := by
  have htext : substituted "-x^2" "-3" = "-(-3)^2" := rfl
  have htokens : tokenize [] "-(-3)^2" = .ok negatedSquareTokens := rfl
  have houtcome : Parser.outcome negatedSquareTokens [] (.whole 3) =
      .ok (-(Number.power (-3) 2)) := rfl
  have hvalue : evaluate (.whole 3) "-(-3)^2" = .ok (-(Number.power (-3) 2)) := by
    rw [evaluate, Parser.evaluateWith_eq]
    simp only [List.map_nil, htokens]
    exact houtcome
  have hnesting : evaluate (.whole 3) "-(-3)^2" ≠ .error (.nestingExceeded (.whole 3)) := by
    rw [hvalue]
    intro h
    cases h
  have hsame := evaluate_substituted "-x^2" "-3" negatedSquare 3 (-3) (by decide) (by decide)
    rfl rfl (by rw [htext]; exact hnesting)
  rw [htext] at hsame
  exact ⟨htext, hvalue, hsame.symm⟩

end Reckon
