import Reckon.Parser.Rules
/-!
# Parser — parsers over a token sequence

A parser is made for one token sequence, the values of its variables and a
nesting bound. Its calls are the rules of the grammar and `parse`, which
wants the whole sequence to be one expression. Every call leaves a parser
that the next call goes on from, also after an error.
-/

namespace Reckon

namespace Parser

/-- The rules that a parser can be asked for. -/
inductive Rule where
  | expression
  | additive
  | multiplicative
  | unary
  | exponent
  | primary
deriving DecidableEq

/-- The step of a rule, with so many calls that may be open at a time. -/
def Rule.action (input : Input) : Rule → (calls : Nat) → Action Float
  | expression => Parser.expression input
  | additive => Parser.additive input
  | multiplicative => Parser.multiplicative input
  | unary => Parser.unary input
  | exponent => Parser.exponent input
  | primary => Parser.primary input

/-- The number of calls that a nesting bound needs: seven for each nested
part, and six around them. -/
def callLimit (bound : Nat) : Nat :=
  7 * bound + 6

/-- Walks over the tokens with the number of parentheses that are open. -/
def balancedFrom : (opened : Nat) → List Token → Bool
  | opened, [] => opened = 0
  | opened, token :: rest =>
    if token.lexeme.is .openParen then balancedFrom (opened + 1) rest
    else if token.lexeme.is .closeParen then
      match opened with
      | 0 => false
      | opened + 1 => balancedFrom opened rest
    else balancedFrom opened rest

/-- Whether the parentheses of a token sequence balance. -/
def balanced (tokens : List Token) : Bool :=
  balancedFrom 0 tokens

/-- Refuses a token sequence whose parentheses do not balance. -/
def checkParentheses (tokens : List Token) : Except Error Unit :=
  if balanced tokens then .ok () else .error .unmatchedParentheses

end Parser

/-- A parser: what it reads, and where it stands. -/
structure Parser where
  input : Parser.Input
  cursor : Parser.Cursor

namespace Parser

/-- The nesting bound where none is given. -/
def defaultBound : Value := .whole 100

/-- **A parser at the start of a token sequence.** The nesting bound has to
lie in the accepted range. -/
def new (tokens : List Token) (bindings : Bindings) (bound : Value) : Except Error Parser := do
  let bound ← bound.number.mapError .boundNoNumber
  if bound.atLeast leastBound && bound.atMost greatestBound then
    return ⟨⟨tokens.toArray, bindings, bound⟩, ⟨0, 0⟩⟩
  else throw (.boundOutOfRange bound)

/-- The outcome of a step, with the parser as the step leaves it. Calls
beyond the limit would mean nesting beyond the bound. -/
def run (p : Parser) (step : Action Float) : Except Error Float × Parser :=
  match step p.cursor with
  | .ok v c => (.ok v, { p with cursor := c })
  | .error (.error e) c => (.error e, { p with cursor := c })
  | .error .overflow c => (.error (.nestingExceeded p.input.bound), { p with cursor := c })

/-- Calls one rule where the parser stands. -/
def rule (p : Parser) (r : Rule) : Except Error Float × Parser :=
  p.run (r.action p.input (callLimit p.input.levels))

/-- **The value of the whole token sequence.** Parentheses are checked over
all tokens first; what follows a complete expression is an error. -/
def parse (p : Parser) : Except Error Float × Parser :=
  match checkParentheses p.input.tokens.toList with
  | .error e => (.error e, p)
  | .ok () =>
    match p.rule .expression with
    | (.ok v, after) =>
      if after.cursor.index < after.input.tokens.size then (.error .trailingTokens, after)
      else (.ok v, after)
    | failed => failed

/-- What a parser can be asked for. -/
inductive Call where
  | parse
  | rule (r : Rule)
deriving DecidableEq

/-- Answers a call. -/
def call (p : Parser) : Call → Except Error Float × Parser
  | .parse => p.parse
  | .rule r => p.rule r

/-- Answers calls in turn, each where the last one stopped. -/
def calls (p : Parser) : List Call → List (Except Error Float × Parser)
  | [] => []
  | c :: rest => let answer := p.call c; answer :: answer.2.calls rest

end Parser

end Reckon
