import Reckon.Error
import Reckon.Number.Arithmetic
import Reckon.Number.Rounding
/-!
# Builtin — functions and constants

The functions that an expression may call, with their arity and domain, and
its constants. A name stands for at most one of them. `applyNamed` and
`constantValue` are what a call and a constant of an expression mean.
-/

namespace Reckon

/-- The functions of one argument. -/
inductive Unary where
  | sqrt | abs | sin | cos | tan | log | log10 | ceil | floor | round
deriving DecidableEq

/-- The functions of one or more arguments. -/
inductive Variadic where
  | max | min
deriving DecidableEq

/-- A function that an expression may call. -/
inductive Builtin where
  | unary (f : Unary)
  | variadic (f : Variadic)
deriving DecidableEq

namespace Unary

/-- The name under which an expression calls the function. -/
def name : Unary → String
  | sqrt => "sqrt"
  | abs => "abs"
  | sin => "sin"
  | cos => "cos"
  | tan => "tan"
  | log => "log"
  | log10 => "log10"
  | ceil => "ceil"
  | floor => "floor"
  | round => "round"

/-- The functions of one argument, by name. -/
def all : List Unary :=
  [abs, ceil, cos, floor, log, log10, round, sin, sqrt, tan]

/-- The logarithms are defined above zero only. -/
def logarithm (f : Float → Float) (x : Float) : Except Error Float :=
  if x ≤ 0 then .error (.domain .logarithm) else .ok (f x)

/-- The value at an argument. A trigonometric function of an infinity is NaN. -/
def apply : Unary → Float → Except Error Float
  | sqrt, x => if x < 0 then .error (.domain .squareRoot) else .ok x.sqrt
  | abs, x => .ok x.abs
  | sin, x => .ok (if x.isInf then Number.nan else x.sin)
  | cos, x => .ok (if x.isInf then Number.nan else x.cos)
  | tan, x => .ok (if x.isInf then Number.nan else x.tan)
  | log, x => logarithm Float.log x
  | log10, x => logarithm Float.log10 x
  | ceil, x => .ok (Number.ceil x)
  | floor, x => .ok (Number.floor x)
  | round, x => .ok (Number.round x)

end Unary

namespace Variadic

/-- The name under which an expression calls the function. -/
def name : Variadic → String
  | max => "max"
  | min => "min"

/-- The functions of one or more arguments, by name. -/
def all : List Variadic :=
  [max, min]

/-- Whether the second argument replaces the first as the best so far. -/
def replaces : Variadic → Float → Float → Bool
  | max, best, x => best < x
  | min, best, x => x < best

/-- The leftmost extremal element among a first argument and the rest. -/
def extremal (f : Variadic) (first : Float) (rest : List Float) : Float :=
  rest.foldl (fun best x => if f.replaces best x then x else best) first

/-- The value at arguments. NaN in any position makes it NaN. -/
def apply (f : Variadic) (first : Float) (rest : List Float) : Float :=
  if (first :: rest).any Float.isNaN then Number.nan else f.extremal first rest

end Variadic

namespace Builtin

/-- The name under which an expression calls the function. -/
def name : Builtin → String
  | unary f => f.name
  | variadic f => f.name

/-- How many arguments the function takes. -/
def arity : Builtin → Arity
  | unary _ => .one
  | variadic _ => .atLeastOne

/-- All functions: those of one argument, then the others, each by name. -/
def all : List Builtin :=
  Unary.all.map unary ++ Variadic.all.map variadic

/-- The function of a name. -/
def ofName? (s : String) : Option Builtin :=
  all.find? (·.name = s)

/-- The value of a call, once its arguments are values. -/
def apply : Builtin → List Float → Except Error Float
  | unary f, [x] => f.apply x
  | variadic f, x :: rest => .ok (f.apply x rest)
  | f, args => .error (.wrongArity f.name f.arity args.length)

/-- Names name functions. -/
theorem ofName?_name (f : Builtin) : ofName? f.name = some f := by
  rcases f with f | f <;> cases f <;> decide

end Builtin

/-- The value of a call of the function of a name. -/
def applyNamed (name : String) (args : List Float) : Except Error Float :=
  match Builtin.ofName? name with
  | some f => f.apply args
  | none => .error (.unknownName name)

/-- The constants with their values, the nearest doubles of π and e. -/
def constants : List (String × Float) :=
  [("pi", 3.141592653589793), ("π", 3.141592653589793), ("e", 2.718281828459045)]

/-- The value of a constant. -/
def constant? (name : String) : Option Float :=
  constants.lookup name

/-- The value that the constant of a name has in an expression. -/
def constantValue (name : String) : Except Error Float :=
  match constant? name with
  | some v => .ok v
  | none => .error (.unknownName name)

end Reckon
