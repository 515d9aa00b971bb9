import Reckon.Text.Blank
import Reckon.Text.Emoji
import Reckon.Text.Width
/-!
# Text — markup

A message to a terminal is marked up: a tag in square brackets sets a style
up to its closing tag, and a name between colons is an emoji. Backslashes
before a tag make it text. `escape` writes a text so that its tags are
text, and `shown` is what a terminal shows of a message, without styles.
-/

namespace Reckon

namespace Text

namespace Markup

/-- Whether a tag may start with this character, after its bracket. -/
def startsTag (c : Char) : Bool :=
  ('a' ≤ c && c ≤ 'z') || c == '#' || c == '/' || c == '@'

/-- The tag at the start of a text, with its brackets, and what follows. -/
def tag? : List Char → Option (List Char × List Char)
  | '[' :: c :: rest =>
    let inside := rest.takeWhile fun d => d ≠ '[' ∧ d ≠ ']'
    match startsTag c, rest.drop inside.length with
    | true, ']' :: after => some ('[' :: c :: inside ++ [']'], after)
    | _, _ => none
  | _ => none

/-- The pieces of a message: tags, each with the number of backslashes before
it, and the texts around them. -/
inductive Piece where
  | plain (s : List Char)
  | tag (backslashes : Nat) (s : List Char)

/-- The pieces of a text, of which `before` was read last, in reverse. -/
def piecesFrom : (limit : Nat) → (before : List Char) → List Char → List Piece
  | 0, before, s => [.plain (before.reverse ++ s)]
  | limit + 1, before, s =>
    let backslashes := s.takeWhile (· = '\\')
    match tag? (s.drop backslashes.length), s with
    | some (tag, rest), _ =>
      .plain before.reverse :: .tag backslashes.length tag :: piecesFrom limit [] rest
    | none, c :: rest => piecesFrom limit (c :: before) rest
    | none, [] => [.plain before.reverse]

/-- The pieces of a text. -/
def pieces (s : List Char) : List Piece :=
  piecesFrom s.length [] s

/-! ## Escaping -/

/-- A piece as text: twice the backslashes before a tag, and one more. -/
def Piece.escaped : Piece → List Char
  | plain s => s
  | tag backslashes s => List.replicate (2 * backslashes + 1) '\\' ++ s

/-- A single backslash at the end is written twice, so that it does not
escape what comes next. -/
def doubleLast (s : List Char) : List Char :=
  match s.reverse with
  | '\\' :: '\\' :: _ => s
  | '\\' :: _ => s ++ ['\\']
  | _ => s

/-- **A text with all its tags escaped.** -/
def escape (s : List Char) : List Char :=
  doubleLast ((pieces s).flatMap Piece.escaped)

/-! ## What is shown -/

/-- The text with a bracket for each bracket after a backslash. -/
def plainBrackets : List Char → List Char
  | '\\' :: '[' :: rest => '[' :: plainBrackets rest
  | c :: rest => c :: plainBrackets rest
  | [] => []

/-- A name between colons, and the variant that it may ask for. -/
def variant (name : List Char) : List Char × List Char :=
  let ends (suffix : String) := suffix.toList.isSuffixOf name
  if ends "-emoji" then (name.take (name.length - 6), ['\ufe0f'])
  else if ends "-text" then (name.take (name.length - 5), ['\ufe0e'])
  else (name, [])

/-- What stands for a name between colons: its emoji, or the name as it is
written. -/
def named (name : List Char) : List Char :=
  let (base, selector) := variant name
  match emoji? base with
  | some emoji => emoji ++ selector
  | none => ':' :: name ++ [':']

/-- The text with emoji for their names. -/
def withEmoji : (limit : Nat) → List Char → List Char
  | 0, s => s
  | _, [] => []
  | limit + 1, c :: rest =>
    let name := rest.takeWhile fun d => d ≠ ':' ∧ !isBlank d
    match rest.drop name.length with
    | ':' :: after => if c = ':' then named name ++ withEmoji limit after
      else c :: withEmoji limit rest
    | _ => c :: withEmoji limit rest

/-- What is shown of a text outside tags. -/
def plain (s : List Char) : List Char :=
  withEmoji s.length (plainBrackets s)

/-- What is shown of a piece. Of the backslashes before a tag two are one,
and one beyond the pairs makes the tag text. -/
def Piece.shown : Piece → List Char
  | plain s => Markup.plain s
  | tag backslashes s =>
    List.replicate (backslashes / 2) '\\' ++
      if backslashes % 2 = 1 then Markup.plain s else []

/-- Characters that only move the cursor are not shown. -/
def isShown (c : Char) : Bool :=
  !(c.toNat ∈ [0x07, 0x08, 0x0b, 0x0c, 0x0d])

/-- **What a terminal shows of a message.** -/
def shown (message : List Char) : List Char :=
  expandTabs 0 (((pieces message).flatMap Piece.shown).filter isShown)

end Markup

end Text

end Reckon
