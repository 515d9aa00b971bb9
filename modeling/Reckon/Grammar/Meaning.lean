import Reckon.Grammar.Tree
import Reckon.Parser.Rules
/-!
# Grammar — the meaning of a derivation tree

A tree is evaluated from left to right, the operands of an operation before
the operation, and the first error ends it. A gate is asked before every
nested part is entered. Without a gate a tree means its `value`; under a
nesting bound, `valueWithin`, it may be refused at the first part that is
nested too deeply.
-/

namespace Reckon

namespace Grammar

/-- What a part of an expression means: a value; for what is repeated in a
sum or a product a function of the value before it; for arguments their
values. -/
def Part.Meaning : Part → Type
  | .sums | .products => Float → Except Error Float
  | .arguments | .items => Except Error (List Float)
  | _ => Except Error Float

/-- The value of a bound variable. -/
def boundValue (bindings : Bindings) (name : String) : Except Error Float :=
  match bindings.lookup name with
  | some v => .ok v
  | none => .error (.unboundVariable name)

namespace Tree

variable (bindings : Bindings) (gate : Nat → Except Error Unit)

/-- **The meaning of a tree** that stands inside so many nested parts. -/
def meaning : {p : Part} → Tree p → (depth : Nat) → p.Meaning
  | _, expression t, depth => t.meaning depth
  | _, additive first rest, depth => (do
      rest.meaning depth (← first.meaning depth) : Except Error Float)
  | _, lastSum, _ => fun left => .ok left
  | _, sum op _ _ operand rest, depth => fun left => (do
      let right ← operand.meaning depth
      rest.meaning depth (← Parser.operate op left right) : Except Error Float)
  | _, multiplicative first rest, depth => (do
      rest.meaning depth (← first.meaning depth) : Except Error Float)
  | _, lastProduct, _ => fun left => .ok left
  | _, product op _ _ operand rest, depth => fun left => (do
      let right ← operand.meaning depth
      rest.meaning depth (← Parser.operate op left right) : Except Error Float)
  | _, negation _ operand, depth => (do
      gate (depth + 1)
      let v ← operand.meaning (depth + 1)
      return -v : Except Error Float)
  | _, unsigned t, depth => t.meaning depth
  | _, single base, depth => base.meaning depth
  | _, power base op _ _ exponent, depth => (do
      let left ← base.meaning depth
      gate (depth + 1)
      let right ← exponent.meaning (depth + 1)
      Parser.operate op left right : Except Error Float)
  | _, number v _, _ => .ok v
  | _, constantName name _, _ => constantValue name
  | _, variableName name _, _ => boundValue bindings name
  | _, call name _ args, depth => (do
      gate (depth + 1)
      let values ← args.meaning (depth + 1)
      applyNamed name values : Except Error Float)
  | _, group _ inside _, depth => (do
      gate (depth + 1)
      inside.meaning (depth + 1) : Except Error Float)
  | _, noArguments _ _, _ => .ok []
  | _, arguments _ first rest _, depth => (do
      let v ← first.meaning depth
      let vs ← rest.meaning depth
      return v :: vs : Except Error (List Float))
  | _, lastItem, _ => .ok []
  | _, item _ argument rest, depth => (do
      let v ← argument.meaning depth
      let vs ← rest.meaning depth
      return v :: vs : Except Error (List Float))

/-- The value of an expression, however deeply it is nested. -/
def value (t : Tree .expression) : Except Error Float :=
  t.meaning bindings (fun _ => .ok ()) 0

/-- The gate of a nesting bound. -/
def withinBound (bound depth : Nat) : Except Error Unit :=
  if depth ≤ bound then .ok () else .error (.nestingExceeded (.whole bound))

/-- The value of an expression under a nesting bound. -/
def valueWithin (bound : Nat) (t : Tree .expression) : Except Error Float :=
  t.meaning bindings (withinBound bound) 0

end Tree

end Grammar

end Reckon
