import Reckon.Parser.Rules
/-!
# Parser — the rules as equations

What every rule does with the rules that it calls (`Rules.opened`), whatever these are: the rules of
a parser that may have fewer calls open, or rules that call each other without a limit. The loops
of the rules are rules of their own here, which go on until a round ends them.
-/

namespace Reckon

namespace Parser

variable {α β : Type}

/-- A loop of as many rounds as there are tokens left. -/
def allRounds (input : Input) (loop : Nat → α → Action β) (v : α) : Action β := do
  loop (← remaining input) v

/-- One round of a chain: an operator and its right operand, or the end. -/
def chainRound (input : Input) (precedence : Nat) (operand : Action Float)
    (again : Float → Action Float) (v : Float) : Action Float := do
  match ← operator? input precedence with
  | none => pure v
  | some op =>
    advance
    let right ← operand
    again (← value (operate op v right))

/-- One round of a list: a comma and an item, or the end. -/
def itemsRound (input : Input) (item : Action Float) (again : Unit → Action (List Float))
    (_ : Unit) : Action (List Float) := do
  if ← at? input .comma then
    advance
    let first ← item
    return first :: (← again ())
  else return []

/-- **Rules as steps,** whatever they call. The loops are rules of their own: the operands that are
added to a value, those that it is multiplied with, and the further arguments of a call. -/
@[ext] structure Rules where
  expression : Action Float
  additive : Action Float
  sums : Float → Action Float
  multiplicative : Action Float
  products : Float → Action Float
  unary : Action Float
  exponent : Action Float
  primary : Action Float
  arguments : String → Action (List Float)
  items : Unit → Action (List Float)

/-- **The rules of the grammar,** each in terms of those that it calls. Rules that solve these
equations call each other without a limit. -/
def Rules.opened (input : Input) (rs : Rules) : Rules where
  expression := rs.additive
  additive := do rs.sums (← rs.multiplicative)
  sums := chainRound input 2 rs.multiplicative rs.sums
  multiplicative := do rs.products (← rs.unary)
  products := chainRound input 3 rs.unary rs.products
  unary := do
    match ← peek input with
    | none => fail .missingOperand
    | some token =>
      if token.lexeme = .symbol .operator "-" then
        advance
        return -(← nested input rs.unary)
      else rs.exponent
  exponent := do
    let base ← rs.primary
    match ← operator? input 4 with
    | none => return base
    | some op =>
      advance
      let power ← nested input rs.unary
      value (operate op base power)
  primary := do
    match ← peek input with
    | none => fail .missingOperand
    | some token =>
      match token.lexeme with
      | .number v =>
        advance
        return v
      | .symbol .constantName name =>
        advance
        value (constantValue name)
      | .symbol .variableName name =>
        advance
        match input.bindings.lookup name with
        | some v => return v
        | none => fail (.unboundVariable name)
      | .symbol .functionName name =>
        advance
        let args ← nested input (rs.arguments name)
        value (applyNamed name args)
      | .symbol .openParen _ =>
        advance
        let v ← nested input rs.expression
        require input .closeParen .groupEnd
        return v
      | _ => fail (.unexpected token)
  arguments name := do
    require input .openParen (.callStart name)
    if ← at? input .closeParen then
      advance
      return []
    else
      let first ← rs.expression
      let rest ← rs.items ()
      require input .closeParen .callEnd
      return first :: rest
  items := itemsRound input rs.expression fun _ => rs.items ()

/-- The rules of a parser that may have so many calls open at a time. -/
def limited (input : Input) (calls : Nat) : Rules where
  expression := Parser.expression input calls
  additive := Parser.additive input calls
  sums := allRounds input (chain input 2 (Parser.multiplicative input calls))
  multiplicative := Parser.multiplicative input calls
  products := allRounds input (chain input 3 (Parser.unary input calls))
  unary := Parser.unary input calls
  exponent := Parser.exponent input calls
  primary := Parser.primary input calls
  arguments name := Parser.arguments input name calls
  items := allRounds input fun count _ => items input (Parser.expression input calls) count

/-- A call more opens the arguments. For the other rules this holds by definition. -/
theorem opened_limited_arguments (input : Input) (calls : Nat) (name : String) :
    ((limited input calls).opened input).arguments name =
      (limited input (calls + 1)).arguments name := by
  change _ = Parser.arguments input name (calls + 1)
  rw [Parser.arguments]
  simp only [Rules.opened, limited, allRounds, bind_assoc]

end Parser

end Reckon
