import Reckon.Builtin
import Reckon.Operator
/-!
# Parser — the cursor

A parser reads one token sequence with a cursor that only moves forward,
looks at one token at a time, and counts how deep it is nested. Its steps
are actions on the cursor that may stop; the cursor stays where they
stopped, so a later step goes on from there.
-/

namespace Reckon

/-- The values of variables, by name. -/
abbrev Bindings := List (String × Float)

namespace Parser

/-- What stays the same while a parser runs. The bound is kept as it was
given: a depth is a whole number, so its integer part decides. -/
structure Input where
  tokens : Array Token
  bindings : Bindings
  bound : Quantity

/-- The number of nested parts that may be open. -/
def Input.levels (input : Input) : Nat :=
  input.bound.floor.toNat

/-- Where a parser stands: the index of the next token, and the number of
nested parts that are open. -/
structure Cursor where
  index : Nat
  depth : Nat
deriving DecidableEq

/-- Why a step stops before it has a value: an error of the expression, or
more calls open at a time than the run was given. -/
inductive Stop where
  | error (e : Error)
  | overflow
deriving DecidableEq

/-- A step of a parser. -/
abbrev Action := EStateM Stop Cursor

/-- Stops with an error. -/
def fail {α : Type} (e : Error) : Action α :=
  throw (.error e)

/-- The value of a computation that does not move the cursor. -/
def value {α : Type} : Except Error α → Action α
  | .ok a => pure a
  | .error e => fail e

/-- Moves past one token. -/
def advance : Action Unit :=
  modify fun c => { c with index := c.index + 1 }

variable (input : Input)

/-- The token at the cursor, if there is one. -/
def peek : Action (Option Token) := do
  return input.tokens[(← get).index]?

/-- Whether the token at the cursor is of this kind. -/
def at? (kind : Symbol) : Action Bool := do
  return ((← peek input).map (·.lexeme.is kind)).getD false

/-- The operator at the cursor, if it is one of this precedence. -/
def operator? (precedence : Nat) : Action (Option Operator) := do
  match ← peek input with
  | some ⟨.symbol .operator text, _⟩ =>
    return (Operator.ofSpelling? text).filter (·.precedence = precedence)
  | _ => return none

/-- Moves past a token of this kind, which has to be there. -/
def require (kind : Symbol) (what : Requirement) : Action Unit := do
  let found ← peek input
  if (found.map (·.lexeme.is kind)).getD false then advance
  else fail (.required what found)

/-- **Runs a nested part.** The depth goes up before it is compared with the
bound, and comes back down however the part ends; a part that is refused
for its depth was never entered, and leaves the count as it was raised. -/
def nested {α : Type} (part : Action α) : Action α := fun c =>
  let inside : Cursor := { c with depth := c.depth + 1 }
  if input.levels < inside.depth then .error (.error (.nestingExceeded input.bound)) inside
  else
    match part inside with
    | .ok a c' => .ok a { c' with depth := c'.depth - 1 }
    | .error stop c' => .error stop { c' with depth := c'.depth - 1 }

/-- How many tokens are left. -/
def remaining : Action Nat := do
  return input.tokens.size - (← get).index

end Parser

end Reckon
