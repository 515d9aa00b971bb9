import Reckon.Operator
import Reckon.Token
/-!
# Grammar — derivation trees

The grammar of expressions as data: a tree has one node for each use of a
rule and one leaf for each token, so `yield` gives back the tokens it
derives. The repeated parts of sums, products and argument lists are parts
of their own. `nesting` counts the nested parts around the innermost token:
what follows a minus sign, the right operand of a power, the inside of a
group, and the arguments of a call.
-/

namespace Reckon

namespace Grammar

/-- The parts of an expression: the rules of the grammar, and what may be
repeated in them. -/
inductive Part where
  | expression
  | additive
  | sums
  | multiplicative
  | products
  | unary
  | exponent
  | primary
  | arguments
  | items
deriving DecidableEq

/-- A token whose text says no more than its kind. -/
structure Mark where
  text : String
  position : Int
deriving DecidableEq

/-- The token of a mark. -/
def Mark.token (kind : Symbol) (mark : Mark) : Token :=
  ⟨.symbol kind mark.text, mark.position⟩

/-- The token of an operator. -/
def operatorToken (op : Operator) (position : Int) : Token :=
  ⟨.symbol .operator op.spelling, position⟩

/-- **Derivation trees.** -/
inductive Tree : Part → Type where
  /-- An expression is a sum. -/
  | expression (sum : Tree .additive) : Tree .expression
  /-- A product, and what is added to it and taken away. -/
  | additive (first : Tree .multiplicative) (rest : Tree .sums) : Tree .additive
  /-- Nothing more is added. -/
  | lastSum : Tree .sums
  /-- One more product is added or taken away. -/
  | sum (op : Operator) (level : op.precedence = 2) (position : Int)
      (operand : Tree .multiplicative) (rest : Tree .sums) : Tree .sums
  /-- A factor, and what it is multiplied with and divided by. -/
  | multiplicative (first : Tree .unary) (rest : Tree .products) : Tree .multiplicative
  /-- No more factors. -/
  | lastProduct : Tree .products
  /-- One more factor or divisor. -/
  | product (op : Operator) (level : op.precedence = 3) (position : Int)
      (operand : Tree .unary) (rest : Tree .products) : Tree .products
  /-- A minus sign before a factor. -/
  | negation (position : Int) (operand : Tree .unary) : Tree .unary
  /-- A factor without a sign. -/
  | unsigned (power : Tree .exponent) : Tree .unary
  /-- An operand that is not raised. -/
  | single (base : Tree .primary) : Tree .exponent
  /-- A power. -/
  | power (base : Tree .primary) (op : Operator) (level : op.precedence = 4) (position : Int)
      (exponent : Tree .unary) : Tree .exponent
  /-- A number. -/
  | number (v : Float) (position : Int) : Tree .primary
  /-- The name of a constant. -/
  | constantName (name : String) (position : Int) : Tree .primary
  /-- The name of a variable. -/
  | variableName (name : String) (position : Int) : Tree .primary
  /-- A call. -/
  | call (name : String) (position : Int) (arguments : Tree .arguments) : Tree .primary
  /-- An expression between parentheses. -/
  | group (opening : Mark) (inside : Tree .expression) (closing : Mark) : Tree .primary
  /-- An argument list that is empty. -/
  | noArguments (opening closing : Mark) : Tree .arguments
  /-- An argument list. -/
  | arguments (opening : Mark) (first : Tree .expression) (rest : Tree .items)
      (closing : Mark) : Tree .arguments
  /-- No more arguments. -/
  | lastItem : Tree .items
  /-- One more argument. -/
  | item (comma : Mark) (argument : Tree .expression) (rest : Tree .items) : Tree .items

namespace Tree

/-- The tokens that a tree derives, from left to right. -/
def yield : {p : Part} → Tree p → List Token
  | _, expression t => t.yield
  | _, additive first rest => first.yield ++ rest.yield
  | _, lastSum => []
  | _, sum op _ position operand rest => operatorToken op position :: operand.yield ++ rest.yield
  | _, multiplicative first rest => first.yield ++ rest.yield
  | _, lastProduct => []
  | _, product op _ position operand rest =>
    operatorToken op position :: operand.yield ++ rest.yield
  | _, negation position operand => operatorToken .minus position :: operand.yield
  | _, unsigned t => t.yield
  | _, single base => base.yield
  | _, power base op _ position exponent =>
    base.yield ++ operatorToken op position :: exponent.yield
  | _, number v position => [⟨.number v, position⟩]
  | _, constantName name position => [⟨.symbol .constantName name, position⟩]
  | _, variableName name position => [⟨.symbol .variableName name, position⟩]
  | _, call name position args => ⟨.symbol .functionName name, position⟩ :: args.yield
  | _, group opening inside closing =>
    opening.token .openParen :: inside.yield ++ [closing.token .closeParen]
  | _, noArguments opening closing => [opening.token .openParen, closing.token .closeParen]
  | _, arguments opening first rest closing =>
    opening.token .openParen :: first.yield ++ rest.yield ++ [closing.token .closeParen]
  | _, lastItem => []
  | _, item comma argument rest => comma.token .comma :: argument.yield ++ rest.yield

/-- The greatest number of nested parts around a token. -/
def nesting : {p : Part} → Tree p → Nat
  | _, expression t => t.nesting
  | _, additive first rest => max first.nesting rest.nesting
  | _, lastSum => 0
  | _, sum _ _ _ operand rest => max operand.nesting rest.nesting
  | _, multiplicative first rest => max first.nesting rest.nesting
  | _, lastProduct => 0
  | _, product _ _ _ operand rest => max operand.nesting rest.nesting
  | _, negation _ operand => operand.nesting + 1
  | _, unsigned t => t.nesting
  | _, single base => base.nesting
  | _, power base _ _ _ exponent => max base.nesting (exponent.nesting + 1)
  | _, number _ _ => 0
  | _, constantName _ _ => 0
  | _, variableName _ _ => 0
  | _, call _ _ args => args.nesting + 1
  | _, group _ inside _ => inside.nesting + 1
  | _, noArguments _ _ => 0
  | _, arguments _ first rest _ => max first.nesting rest.nesting
  | _, lastItem => 0
  | _, item _ argument rest => max argument.nesting rest.nesting

end Tree

end Grammar

end Reckon
