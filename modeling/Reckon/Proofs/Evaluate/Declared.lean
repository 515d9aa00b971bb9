import Reckon.Proofs.Evaluate.Resolved
import Reckon.Proofs.Parser.MoreBindings
/-!
# Evaluate — declared names

A declared name is looked at last: after the constants, the functions and
whatever else a text may fail for before it. So declaring more names, of
whatever form, changes nothing but a failure for one of them, and a template is
evaluated at every point as the expression that it is, unless that fails for the
variable (`tokenize_eq_iff_of_subset`).
-/

namespace Reckon

variable {declared declared' : List String} {expression : String}

/-- What a text comes to under more declared names is the same exactly unless it
fails for one of them. -/
theorem tokenize_eq_iff (hsub : declared ⊆ declared') :
    tokenize declared' expression = tokenize declared expression ↔
      ∀ name ∈ declared', name ∉ declared →
        tokenize declared expression ≠ .error (.unknownName name) := by
  constructor
  · rintro heq name hnew - he
    exact tokenize_ne_unknownName hnew (heq.trans he)
  · intro hnone
    rcases tokenize_extended hsub with heq | ⟨e, ⟨name, hnew, hold, rfl⟩, he⟩
    · exact heq
    · exact absurd he (hnone name hnew hold)

/-- A template at a point is the expression, where that does not fail for the
variable. -/
theorem evaluateAt_eq_evaluate {bound : Value} (x : Float)
    (h : evaluate bound expression ≠ .error (.unknownName variableName)) :
    evaluateAt bound expression x = evaluate bound expression := by
  have htokens : tokenize [variableName] expression = tokenize [] expression := by
    refine (tokenize_eq_iff (List.nil_subset _)).mpr fun name hname _ he => h ?_
    obtain rfl := List.mem_singleton.mp hname
    exact evaluateWith_eq_unknownName_iff.mpr he
  rw [evaluateAt, evaluate, Parser.evaluateWith_eq, Parser.evaluateWith_eq]
  simp only [List.map_cons, List.map_nil, htokens]
  cases hts : tokenize [] expression with
  | error e => rfl
  | ok ts =>
    -- no token is a variable, so the run never asks for a value
    refine Parser.outcome_of_more_bindings ts bound (by rintro name v ⟨⟩) fun name => ?_
    exact (outcome_ne_of_tokenize name (by rintro name ⟨⟩) hts).2

/-- **Declaring more names is conservative.** A text has the same tokens, or fails
with the same error, exactly unless it fails for a name that is declared only then;
and a template comes at every point, under every bound, to what it comes to as an
expression, exactly unless that fails for the variable. -/
theorem tokenize_eq_iff_of_subset (declared declared' : List String) (hsub : declared ⊆ declared')
    (expression : String) :
    (tokenize declared' expression = tokenize declared expression ↔
      ∀ name ∈ declared', name ∉ declared →
        tokenize declared expression ≠ .error (.unknownName name)) ∧
    ∀ bound x, evaluateAt bound expression x = evaluate bound expression ↔
      evaluate bound expression ≠ .error (.unknownName variableName) := by
  refine ⟨tokenize_eq_iff hsub, fun bound x => ⟨fun heq he => ?_, evaluateAt_eq_evaluate x⟩⟩
  have hdeclared : variableName ∈ [(variableName, x)].map (·.1) := List.mem_singleton.mpr rfl
  exact tokenize_ne_unknownName hdeclared (evaluateWith_eq_unknownName_iff.mp (heq.trans he))

/-- So a constant that is declared as well stays a constant, an operator that is
declared stays one, and a number out of place fails under the variable as without
it, while the variable is known only then. -/
theorem tokenize_declared_constant :
    tokenize ["e", "+", "x"] "e + 1" = tokenize [] "e + 1" ∧
      tokenize ["e", "+", "x"] "e + x" ≠ tokenize [] "e + x" ∧
      evaluateAt (.whole 1) "e 1" 0 = .error .trailingTokens := by
  have h (expression : String) :=
    tokenize_eq_iff_of_subset [] ["e", "+", "x"] (List.nil_subset _) expression
  have hknown : ∃ ts, tokenize [] "e + 1" = .ok ts := ⟨_, rfl⟩
  have hunknown : tokenize [] "e + x" = .error (.unknownName "x") := rfl
  have htrailing : evaluate (.whole 1) "e 1" = .error .trailingTokens := rfl
  refine ⟨(h _).1.mpr fun name _ _ he => ?_, fun heq => ?_, ?_⟩
  · obtain ⟨ts, hts⟩ := hknown
    rw [hts] at he
    cases he
  · exact (h _).1.mp heq "x" (by decide) (by decide) hunknown
  · rw [((h _).2 (.whole 1) 0).mpr (by rw [htrailing]; rintro ⟨⟩), htrailing]

end Reckon
