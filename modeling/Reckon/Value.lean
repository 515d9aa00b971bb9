import Reckon.Quantity
/-!
# Value — what a parameter may be given

A parameter should be given a quantity or a text, but nothing keeps an
unchecked one from being given something else, or nothing. `quantity` is
the number in a value, or the kind of a value that is none.
-/

namespace Reckon

/-- A value as it is given. Of moments, lists and tables nothing is asked but
that they are. -/
inductive Value where
  | nothing
  | quantity (q : Quantity)
  | text (s : String)
  /-- A text that is not made of whole characters. -/
  | garbled
  /-- Bytes, with the text that they encode. -/
  | bytes (text : Option String)
  | moment
  | list
  | table
deriving DecidableEq

/-- The kinds of values. -/
inductive Kind where
  | nothing
  | truth
  | whole
  | real
  | text
  | bytes
  | moment
  | list
  | table
deriving DecidableEq

/-- The name of a kind. -/
def Kind.name : Kind → String
  | nothing => "NoneType"
  | truth => "bool"
  | whole => "int"
  | real => "float"
  | text => "str"
  | bytes => "bytes"
  | moment => "date"
  | list => "list"
  | table => "dict"

/-- The kind of a quantity. -/
def Quantity.kind : Quantity → Kind
  | truth _ => .truth
  | whole _ => .whole
  | real _ => .real

namespace Value

/-- The kind of a value. -/
def kind : Value → Kind
  | nothing => .nothing
  | quantity q => q.kind
  | text _ | garbled => .text
  | bytes _ => .bytes
  | moment => .moment
  | list => .list
  | table => .table

/-- A whole number as a value. -/
abbrev whole (n : Int) : Value := quantity (.whole n)

/-- A real number as a value. -/
abbrev real (v : Float) : Value := quantity (.real v)

/-- The value, or another one where nothing is given. -/
def orElse (given standing : Value) : Value :=
  match given with
  | nothing => standing
  | value => value

/-- The number that a value is. -/
def number : Value → Except Kind Quantity
  | quantity q => .ok q
  | value => .error value.kind

end Value

end Reckon
