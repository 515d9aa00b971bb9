import Reckon.Log
import Reckon.Parser
import Reckon.Settings.Basic
import Reckon.Token.Scan
/-!
# Evaluate — the value of an expression

An expression stands for itself; a template is an expression in the
variable `x`, with a value for it. The value is never written into the
text, so `-x^2` at `-3` is `-9`.
-/

namespace Reckon

/-- The variable of a template. -/
def variableName : String := "x"

/-- The value of an expression under declared variables and their values. -/
def evaluateWith (bindings : Bindings) (bound : Value) (expression : String) :
    Except Error Float := do
  let tokens ← tokenize (bindings.map (·.1)) expression
  let parser ← Parser.new tokens bindings bound
  parser.parse.1

/-- **The value of a closed expression.** -/
def evaluate (bound : Value) (expression : String) : Except Error Float :=
  evaluateWith [] bound expression

/-- **The value of a template at a point.** -/
def evaluateAt (bound : Value) (template : String) (x : Float) : Except Error Float :=
  evaluateWith [(variableName, x)] bound template

/-- The value of a closed expression under a given or the configured nesting
bound, reported as an event where there is one. -/
def evaluateReported (standing : Settings.Standing) (expression : String)
    (bound : Value := .nothing) : Reported Error Float :=
  let outcome := evaluate (bound.orElse (standing .maxNestingDepth)) expression
  match outcome with
  | .ok v => ⟨outcome, [.evaluated expression v]⟩
  | .error _ => ⟨outcome, []⟩

end Reckon
