import Reckon.Parser.Cursor
/-!
# Parser — the rules of the grammar

Each rule reads its part of the tokens and gives the value at once:

    expression     := additive
    additive       := multiplicative (('+' | '-') multiplicative)*
    multiplicative := unary (('*' | '/' | '%') unary)*
    unary          := '-' unary | exponent
    exponent       := primary (('^' | '**') unary)?
    primary        := number | constant | variable | call | '(' expression ')'
    call           := function '(' [expression (',' expression)*] ')'

A minus sign stands above the powers, so a minus before a power negates the
power, while the right operand of a power may have a sign of its own. Four
parts are nested: what follows a minus sign, the right operand of a power,
the inside of a group, and the arguments of a call.

The rules take the number of calls that may be open at a time. Between two
nested parts at most seven calls are opened, so the bound on the nesting
bounds that number too.
-/

namespace Reckon

namespace Parser

/-- The value of a binary operation. A quotient by zero is refused. -/
def operate : Operator → Float → Float → Except Error Float
  | .plus, left, right => .ok (left + right)
  | .minus, left, right => .ok (left - right)
  | .times, left, right => .ok (left * right)
  | .divide, left, right => if right == 0 then .error .divisionByZero else .ok (left / right)
  | .modulo, left, right => .ok (Number.remainder left right)
  | .caret, left, right | .stars, left, right => .ok (Number.power left right)

variable (input : Input)

/-- Goes on from a left operand with the operators of one precedence, for
at most `count` of them, and folds to the left. -/
def chain (precedence : Nat) (operand : Action Float) : (count : Nat) → Float → Action Float
  | 0, left => pure left
  | count + 1, left => do
    match ← operator? input precedence with
    | none => pure left
    | some op =>
      advance
      let right ← operand
      chain precedence operand count (← value (operate op left right))

/-- The further items of a list, at most `count` of them, each after a comma. -/
def items (item : Action Float) : (count : Nat) → Action (List Float)
  | 0 => pure []
  | count + 1 => do
    if ← at? input .comma then
      advance
      let first ← item
      return first :: (← items item count)
    else return []

/-- The calls that may be open are all open. -/
def overflow {α : Type} : Action α :=
  throw .overflow

mutual

/-- A whole expression. -/
def expression : (calls : Nat) → Action Float
  | 0 => overflow
  | calls + 1 => additive calls

/-- Sums and differences. -/
def additive : (calls : Nat) → Action Float
  | 0 => overflow
  | calls + 1 => do
    let left ← multiplicative calls
    chain input 2 (multiplicative calls) (← remaining input) left

/-- Products, quotients and remainders. -/
def multiplicative : (calls : Nat) → Action Float
  | 0 => overflow
  | calls + 1 => do
    let left ← unary calls
    chain input 3 (unary calls) (← remaining input) left

/-- A sign, or a power. -/
def unary : (calls : Nat) → Action Float
  | 0 => overflow
  | calls + 1 => do
    match ← peek input with
    | none => fail .missingOperand
    | some token =>
      if token.lexeme = .symbol .operator "-" then
        advance
        return -(← nested input (unary calls))
      else exponent calls

/-- An operand, and a power of it. -/
def exponent : (calls : Nat) → Action Float
  | 0 => overflow
  | calls + 1 => do
    let base ← primary calls
    match ← operator? input 4 with
    | none => return base
    | some op =>
      advance
      let power ← nested input (unary calls)
      value (operate op base power)

/-- An operand. -/
def primary : (calls : Nat) → Action Float
  | 0 => overflow
  | calls + 1 => do
    match ← peek input with
    | none => fail .missingOperand
    | some token =>
      match token.lexeme with
      | .number v =>
        advance
        return v
      | .symbol .constantName name =>
        advance
        value (constantValue name)
      | .symbol .variableName name =>
        advance
        match input.bindings.lookup name with
        | some v => return v
        | none => fail (.unboundVariable name)
      | .symbol .functionName name =>
        advance
        let args ← nested input (arguments name calls)
        value (applyNamed name args)
      | .symbol .openParen _ =>
        advance
        let v ← nested input (expression calls)
        require input .closeParen .groupEnd
        return v
      | _ => fail (.unexpected token)

/-- The arguments of a call, with the parentheses around them. -/
def arguments (name : String) : (calls : Nat) → Action (List Float)
  | 0 => overflow
  | calls + 1 => do
    require input .openParen (.callStart name)
    if ← at? input .closeParen then
      advance
      return []
    else
      let first ← expression calls
      let rest ← items input (expression calls) (← remaining input)
      require input .closeParen .callEnd
      return first :: rest

end

end Parser

end Reckon
