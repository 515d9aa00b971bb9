import Reckon.Text.Quoted
import Reckon.Token
import Reckon.Value
/-!
# Error — why an expression has no value

The causes that stop an evaluation, with one wording each.
-/

namespace Reckon

/-- The number of arguments that a function takes. -/
inductive Arity where
  | one
  | atLeastOne
deriving DecidableEq

/-- The phrase for a number of arguments. -/
def Arity.phrase : Arity → String
  | one => "1 argument"
  | atLeastOne => "at least 1 argument"

/-- The functions that are not defined on all reals. -/
inductive Domain where
  | squareRoot
  | logarithm
deriving DecidableEq

/-- What the grammar requires where a run stopped. -/
inductive Requirement where
  | groupEnd
  | callStart (function : String)
  | callEnd
deriving DecidableEq

/-- The phrase for a requirement. -/
def Requirement.phrase : Requirement → String
  | groupEnd => "')'"
  | callStart name => "'(' after function " ++ name
  | callEnd => "')' or ','"

/-- The least and the greatest nesting bound that is accepted. -/
def leastBound : Int := 1

@[inherit_doc leastBound]
def greatestBound : Int := 114

/-- Why an expression has no value. -/
inductive Error where
  /-- Nothing but blanks. -/
  | emptyExpression
  /-- A character that starts no token. -/
  | invalidCharacter (char : Char) (position : Nat)
  /-- A malformed or infinite literal. -/
  | invalidNumber (literal : String) (position : Nat)
  /-- A name that is neither a constant, a function nor a variable. -/
  | unknownName (name : String)
  /-- Parentheses that do not balance. -/
  | unmatchedParentheses
  /-- The input ends where an operand has to stand. -/
  | missingOperand
  /-- A token that starts no operand, where one has to stand. -/
  | unexpected (found : Token)
  /-- Another token, or none, where the grammar leaves no choice. -/
  | required (what : Requirement) (found : Option Token)
  /-- Tokens after a whole expression. -/
  | trailingTokens
  /-- A call outside the arity of its function. -/
  | wrongArity (name : String) (arity : Arity) (got : Nat)
  /-- An argument outside the domain of its function. -/
  | domain (function : Domain)
  /-- A quotient by zero. -/
  | divisionByZero
  /-- Deeper nesting than the bound allows. -/
  | nestingExceeded (bound : Quantity)
  /-- A variable without a value. -/
  | unboundVariable (name : String)
  /-- A nesting bound that is not accepted. -/
  | boundOutOfRange (got : Quantity)
  /-- A nesting bound that is no number. -/
  | boundNoNumber (got : Kind)
deriving DecidableEq

/-- The wording of an error. -/
def Error.message : Error → String
  | emptyExpression => "Empty expression"
  | invalidCharacter c _ => "Invalid character: " ++ String.ofList [c]
  | invalidNumber literal _ => "Invalid number format: " ++ literal
  | unknownName name => "Unknown function or constant: " ++ name
  | unmatchedParentheses => "Unmatched parentheses in expression"
  | missingOperand => "Invalid expression: missing operand"
  | unexpected t => "Unexpected token: " ++ t.describe ++ " at position " ++ toString t.position
  | required what none => "Expected " ++ what.phrase ++ ", got end of expression"
  | required what (some t) =>
    "Expected " ++ what.phrase ++ ", got " ++ t.describe ++ " at position " ++ toString t.position
  | trailingTokens => "Unexpected tokens at end of expression"
  | wrongArity name arity got =>
    "Wrong number of arguments: Function " ++ name ++ " expects " ++ arity.phrase ++ ", got " ++
      toString got
  | domain .squareRoot => "Square root of negative number is not allowed"
  | domain .logarithm => "Logarithm of zero or negative number is not allowed"
  | divisionByZero => "Division by zero is not allowed"
  | nestingExceeded bound => "Maximum nesting depth of " ++ bound.text ++ " exceeded"
  | unboundVariable name => Text.quoted name
  | boundOutOfRange got =>
    "max_depth must be between " ++ toString leastBound ++ " and " ++ toString greatestBound ++
      ", got " ++ got.text
  | boundNoNumber got =>
    "'<=' not supported between instances of 'int' and '" ++ got.name ++ "'"

/-- Whether an error breaks a run off, where others are reported: nothing was
wrong with the expression, but with what it was evaluated under. -/
def Error.breaksOff : Error → Bool
  | unboundVariable _ | boundNoNumber _ => true
  | _ => false

end Reckon
