import Reckon.Text.Blank
import Reckon.Text.Line
/-!
# Document — environment files

An environment file holds variables, `NAME=value`, one after another, with
blanks around the sign, an optional `export` before the name, and comments. A
value may stand between quotes, and then go over lines; a plain value ends
with its line or before a comment. Where an entry is malformed, the rest of
its line is passed over. A value may refer to other variables, as `${NAME}`
or with a value for a missing one, as `${NAME:-value}`.
-/

namespace Reckon

namespace Dotenv

/-! ## Blanks and line ends -/

/-- A blank that ends no line. -/
def isLineBlank (c : Char) : Bool :=
  Text.isBlank c && c ≠ '\n'

/-- The text without blanks at its start, on the same line. -/
def skipBlanks (s : List Char) : List Char :=
  s.dropWhile isLineBlank

/-- The text behind the rest of its line. -/
def nextLine (s : List Char) : List Char :=
  (s.dropWhile (· ≠ '\n')).drop 1

/-- The text without a comment at its start. -/
def skipComment (s : List Char) : List Char :=
  if (skipBlanks s).head? = some '#' then s.dropWhile (· ≠ '\n') else s

/-- What a reader gives: what it has read and the text behind it, or else the
text where it came to a halt. -/
abbrev Step (α : Type) := Except (List Char) (α × List Char)

/-- The next line, where nothing is left of this one. -/
def endLine (s : List Char) : Except (List Char) (List Char) :=
  match skipBlanks s with
  | [] => .ok []
  | c :: rest => if c = '\n' then .ok rest else .error s

/-! ## Names -/

/-- The text without an `export` before the name. -/
def skipExport (s : List Char) : List Char :=
  match s with
  | 'e' :: 'x' :: 'p' :: 'o' :: 'r' :: 't' :: c :: rest =>
    if isLineBlank c then skipBlanks rest else s
  | _ => s

/-- Whether a character may stand in a plain name. -/
def isNameChar (c : Char) : Bool :=
  !(c == '=' || c == '#' || Text.isBlank c)

/-- The name at the start of an entry, between single quotes or plain. A
comment has none. -/
def name (s : List Char) : Step (Option (List Char)) :=
  match s with
  | '#' :: _ => .ok (none, s)
  | '\'' :: rest =>
    let inside := rest.takeWhile (· ≠ '\'')
    match inside, rest.drop inside.length with
    | _ :: _, '\'' :: after => .ok (some inside, after)
    | _, _ => .error s
  | _ =>
    let plain := s.takeWhile isNameChar
    if plain = [] then .error s else .ok (some plain, s.drop plain.length)

/-! ## Values -/

/-- The inside of quotes and what follows them. A quote after a backslash
closes only where no other one does. -/
def quotedPart (quote : Char) : List Char → Option (List Char × List Char)
  | [] => none
  | [c] => if c = quote then some ([], []) else none
  | c :: d :: rest =>
    if c = quote then some ([], d :: rest)
    else if c = '\\' ∧ d = quote then
      match quotedPart quote rest with
      | some (inside, after) => some (c :: d :: inside, after)
      | none => some ([c], rest)
    else (quotedPart quote (d :: rest)).map fun (inside, after) => (c :: inside, after)

/-- The character that an escape in double quotes stands for. -/
def escaped? : Char → Option Char
  | 'a' => some '\x07'
  | 'b' => some '\x08'
  | 'f' => some '\x0c'
  | 'n' => some '\n'
  | 'r' => some '\r'
  | 't' => some '\t'
  | 'v' => some '\x0b'
  | '\\' => some '\\'
  | '\'' => some '\''
  | '"' => some '"'
  | _ => none

/-- Whether a character may be escaped between these quotes. -/
def mayEscape (quote c : Char) : Bool :=
  if quote = '"' then (escaped? c).isSome else c == '\\' || c == '\''

/-- The quoted text with its escapes replaced; other backslashes stay. -/
def unescape (quote : Char) : List Char → List Char
  | '\\' :: c :: rest =>
    if mayEscape quote c then (escaped? c).getD c :: unescape quote rest
    else '\\' :: c :: unescape quote rest
  | c :: rest => c :: unescape quote rest
  | [] => []

/-- A plain value: up to a blank before a comment, without blanks at its
end. -/
def plainPart : (blank : Bool) → List Char → List Char
  | true, '#' :: _ => []
  | _, c :: rest => c :: plainPart (Text.isBlank c) rest
  | _, [] => []

/-- The value after the sign. -/
def value (s : List Char) : Step (List Char) :=
  match s with
  | [] => .ok ([], [])
  | c :: rest =>
    if c = '\'' ∨ c = '"' then
      match quotedPart c rest with
      | some (inside, after) => .ok (unescape c inside, after)
      | none => .error s
    else
      let line := s.takeWhile (· ≠ '\n')
      .ok (Text.trim Text.isBlank (plainPart false line), s.drop line.length)

/-- A value where there is a sign. -/
def value? (s : List Char) : Step (Option (List Char)) :=
  match skipBlanks s with
  | '=' :: rest => (value (skipBlanks rest)).map fun (v, rest) => (some v, rest)
  | rest => .ok (none, rest)

/-! ## Entries -/

/-- A variable as it is written, with a value where there is a sign. -/
abbrev Entry := List Char × Option (List Char)

/-- The entry at the start of a text, and the text behind its line. -/
def entry (s : List Char) : Except (List Char) (Option Entry × List Char) := do
  let (name, s) ← name (skipExport s)
  let (value, s) ← value? s
  let rest ← endLine (skipComment s)
  return (name.map (·, value), rest)

/-- The entries of a text, in order. -/
def entriesFrom : (limit : Nat) → List Char → List Entry
  | 0, _ => []
  | limit + 1, s =>
    match s.dropWhile Text.isBlank with
    | [] => []
    | start =>
      match entry start with
      | .ok (found, rest) => found.toList ++ entriesFrom limit rest
      | .error rest => entriesFrom limit (nextLine rest)

/-! ## References -/

/-- A reference to a variable at the start of a text: its name, the value for
a missing one, and what follows. -/
def reference? : List Char → Option (List Char × List Char × List Char)
  | '$' :: '\x7b' :: rest =>
    let name := rest.takeWhile fun c => c ≠ '\x7d' ∧ c ≠ ':'
    match rest.drop name.length with
    | '\x7d' :: after => some (name, [], after)
    | ':' :: '-' :: after =>
      let standby := after.takeWhile (· ≠ '\x7d')
      match after.drop standby.length with
      | '\x7d' :: after => some (name, standby, after)
      | _ => none
    | _ => none
  | _ => none

/-- The text with values for its references, under what variables hold. -/
def resolve (known : List (String × Option String)) : (limit : Nat) → List Char → List Char
  | 0, s => s
  | limit + 1, s =>
    match reference? s, s with
    | some (name, standby, after), _ =>
      let value := match known.lookup (String.ofList name) with
        | some value => (value.getD "").toList
        | none => standby
      value ++ resolve known limit after
    | none, c :: rest => c :: resolve known limit rest
    | none, [] => []

/-- The variables with one of them set. One that is there keeps its place. -/
def set (name : String) (value : Option String) :
    List (String × Option String) → List (String × Option String)
  | [] => [(name, value)]
  | (n, v) :: rest => if n = name then (n, value) :: rest else (n, v) :: set name value rest

/-- What a reference is to: an earlier entry, else a variable of the
environment. -/
def known (environment : List (String × String)) (before : List (String × Option String)) :
    List (String × Option String) :=
  before ++ environment.map fun (name, value) => (name, some value)

/-- One more entry, under an environment and the entries before it. -/
def add (environment : List (String × String)) (before : List (String × Option String))
    (entry : Entry) : List (String × Option String) :=
  let value := entry.2.map fun s => String.ofList (resolve (known environment before) s.length s)
  set (String.ofList entry.1) value before

/-- The entries of an environment file, as they are written. -/
def written (text : String) : List Entry :=
  let s := Text.unixLines text.toList
  entriesFrom s.length s

/-- **The variables of an environment file,** in order. -/
def entries (environment : List (String × String)) (text : String) :
    List (String × Option String) :=
  (written text).foldl (add environment) []

end Dotenv

end Reckon
