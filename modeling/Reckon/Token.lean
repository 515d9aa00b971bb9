import Reckon.Number.Text
/-!
# Token — the words of an expression

A token is a number, or a piece of the source text under one of seven
kinds, at a position. In a text positions count characters from zero; tokens
that come from elsewhere may say any.
-/

namespace Reckon

/-- The kinds of token that carry their source text. -/
inductive Symbol where
  | operator
  | functionName
  | constantName
  | variableName
  | openParen
  | closeParen
  | comma
deriving DecidableEq

/-- The name of a kind in messages. -/
def Symbol.name : Symbol → String
  | operator => "operator"
  | functionName => "function"
  | constantName => "constant"
  | variableName => "variable"
  | openParen => "lparen"
  | closeParen => "rparen"
  | comma => "comma"

/-- What a token says: the value of a number, or a kind and the text. -/
inductive Lexeme where
  | number (value : Float)
  | symbol (kind : Symbol) (text : String)
deriving DecidableEq

/-- A lexeme and where it starts. -/
structure Token where
  lexeme : Lexeme
  position : Int
deriving DecidableEq

/-- Whether the lexeme is of this kind. -/
def Lexeme.is (kind : Symbol) : Lexeme → Bool
  | number _ => false
  | symbol k _ => k = kind

/-- How messages name a token. -/
def Token.describe (t : Token) : String :=
  match t.lexeme with
  | .number v => "number " ++ Number.general v
  | .symbol kind text => kind.name ++ " '" ++ text ++ "'"

end Reckon
