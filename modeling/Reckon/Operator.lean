/-!
# Operator — the binary operators

The seven spellings of the binary operators with their precedence and
associativity. The grammar has one level for each precedence.
-/

namespace Reckon

/-- A binary operator, by its spelling. -/
inductive Operator where
  | plus
  | minus
  | times
  | divide
  | modulo
  | caret
  | stars
deriving DecidableEq

namespace Operator

/-- How the operator is written. -/
def spelling : Operator → String
  | plus => "+"
  | minus => "-"
  | times => "*"
  | divide => "/"
  | modulo => "%"
  | caret => "^"
  | stars => "**"

/-- All operators. -/
def all : List Operator :=
  [plus, minus, times, divide, modulo, caret, stars]

/-- The operator that is written so. -/
def ofSpelling? (s : String) : Option Operator :=
  all.find? (·.spelling = s)

/-- An operator binds more tightly than those of lower precedence. -/
def precedence : Operator → Nat
  | plus | minus => 2
  | times | divide | modulo => 3
  | caret | stars => 4

/-- Equal operators in a row group to the right for the powers, else to the left. -/
def rightAssociative : Operator → Bool
  | caret | stars => true
  | _ => false

/-- Spellings name operators. -/
theorem ofSpelling?_spelling (op : Operator) : ofSpelling? op.spelling = some op := by
  cases op <;> decide

end Operator

end Reckon
