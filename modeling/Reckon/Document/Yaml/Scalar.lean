import Reckon.Document.Yaml.Fault
import Reckon.Document.Yaml.Line
/-!
# Document — YAML scalars

The three ways to write a scalar: plain, between quotes, and as a block of
lines. Each reader takes the text behind the sign that announces it, and
gives the value of the scalar and what follows. A single line break within
a plain or a quoted scalar is a space, and of more than one the first is
dropped.
-/

namespace Reckon

namespace Yaml

/-- A separator for a line break and the breaks of empty lines after it. -/
def folded (first : Char) (breaks : List Char) : List Char :=
  if breakText first ≠ '\n' then first :: breaks
  else if breaks = [] then [' ']
  else breaks

/-! ## Quoted scalars -/

/-- From the start of a line on, the breaks of empty lines, up to the first
character of another one. A mark between documents may not come up. -/
def quotedBreaks? : (limit : Nat) → List Char → Option (List Char × List Char)
  | 0, _ => none
  | limit + 1, s =>
    if isMark s then none
    else match s.dropWhile isBlank with
      | c :: rest =>
        if isBreak c then
          (quotedBreaks? limit rest).map fun (breaks, rest) => (breakText c :: breaks, rest)
        else some ([], c :: rest)
      | [] => some ([], [])

/-- The escapes of one letter between double quotes. -/
def escapes : List (Char × Char) :=
  [('0', '\x00'), ('a', '\x07'), ('b', '\x08'), ('t', '\t'), ('\t', '\t'), ('n', '\n'),
    ('v', '\x0b'), ('f', '\x0c'), ('r', '\r'), ('e', '\x1b'), (' ', ' '), ('"', '"'), ('\\', '\\'),
    ('/', '/'), ('N', '\u0085'), ('_', '\u00a0'), ('L', '\u2028'), ('P', '\u2029')]

/-- The number of hexadecimal digits of an escape by code point. -/
def escapeWidth? : Char → Option Nat
  | 'x' => some 2
  | 'u' => some 4
  | 'U' => some 8
  | _ => none

/-- A digit of a base up to sixteen. -/
def digitOf? (base : Nat) (c : Char) : Option Nat :=
  let n :=
    if c.isDigit then c.toNat - '0'.toNat
    else if 'a' ≤ c ∧ c ≤ 'f' then c.toNat - 'a'.toNat + 10
    else if 'A' ≤ c ∧ c ≤ 'F' then c.toNat - 'A'.toNat + 10
    else base
  if n < base then some n else none

/-- The number that so many hexadecimal digits write, and what follows them. -/
def hexCode? (width : Nat) (s : List Char) : Option (Nat × List Char) := do
  let digits := s.take width
  if digits.length < width then none
  return (← digits.foldlM (fun n d => (digitOf? 16 d).map (16 * n + ·)) 0, s.drop width)

/-- A part of a quoted scalar. It is garbled where it has half a character,
one of the code points that only pairs of which stand for one. -/
structure Quoted where
  value : List Char
  isGarbled : Bool := false
  rest : List Char

/-- A part before another one. -/
def Quoted.before (part more : Quoted) : Quoted :=
  { more with value := part.value ++ more.value, isGarbled := part.isGarbled || more.isGarbled }

/-- Half a character is replaced by the sign for no character. -/
def ofCode (code : Nat) (rest : List Char) : Except Fault Quoted :=
  if 0x10ffff < code then .error (.noCodePoint code)
  else if 0xd800 ≤ code ∧ code ≤ 0xdfff then
    .ok { value := ['\ufffd'], isGarbled := true, rest }
  else .ok { value := [Char.ofNat code], rest }

/-- What an escape stands for, from the character after its backslash on. An
escaped line break stands for nothing. -/
def escaped (s : List Char) : Except Fault Quoted :=
  match s with
  | [] => .error .malformed
  | c :: rest =>
    match escapes.lookup c, escapeWidth? c with
    | some e, _ => .ok { value := [e], rest }
    | none, some width =>
      match hexCode? width rest with
      | some (code, rest) => ofCode code rest
      | none => .error .malformed
    | none, none =>
      match if isBreak c then quotedBreaks? rest.length.succ rest else none with
      | some (value, rest) => .ok { value, rest }
      | none => .error .malformed

/-- The inside of quotes, up to the closing quote. A single quote between
single quotes is written twice. -/
def quoted (quote : Char) : (limit : Nat) → List Char → Except Fault Quoted
  | 0, _ => .error .malformed
  | _, [] => .error .malformed
  | limit + 1, c :: rest =>
    let and (part : Quoted) : Except Fault Quoted :=
      (quoted quote limit part.rest).map part.before
    if c = quote then
      if quote = '\'' ∧ rest.head? = some '\'' then and { value := ['\''], rest := rest.drop 1 }
      else .ok { value := [], rest }
    else if quote = '"' ∧ c = '\\' then escaped rest >>= and
    else
      let blanks := (c :: rest).takeWhile isBlank
      match (c :: rest).drop blanks.length with
      | [] => .error .malformed
      | d :: after =>
        if isBreak d then
          match quotedBreaks? after.length.succ after with
          | some (breaks, after) => and { value := folded d breaks, rest := after }
          | none => .error .malformed
        else if blanks = [] then and { value := [c], rest }
        else and { value := blanks, rest := d :: after }

/-! ## Plain scalars -/

/-- The signs of flow collections. -/
def isFlowSign (c : Char) : Bool :=
  c == ',' || c == '[' || c == ']' || c == '\x7b' || c == '\x7d'

/-- A word of a plain scalar: up to a blank, a line break, a colon that ends
a word and, within a flow collection, its signs. -/
def plainWord (flow : Bool) : List Char → List Char
  | [] => []
  | c :: rest =>
    if isBlank c || isBreak c then []
    else if c == ':' && (endsWord rest || (flow && rest.head?.any isFlowSign)) then []
    else if flow && (isFlowSign c || c == '?') then []
    else c :: plainWord flow rest

/-- From a column of a line on, the breaks of empty lines, up to the first
character of another one or a mark between documents: the breaks, the
column of that character, and the text from it on. -/
def plainBreaks : (column : Nat) → List Char → List Char × Nat × List Char
  | column, [] => ([], column, [])
  | column, c :: rest =>
    if column = 0 ∧ isMark (c :: rest) then ([], 0, c :: rest)
    else if c = ' ' then plainBreaks (column + 1) rest
    else if isBreak c then
      let (breaks, column, rest) := plainBreaks 0 rest
      (breakText c :: breaks, column, rest)
    else ([], column, c :: rest)

/-- A plain scalar as it was read. -/
structure Plain where
  value : List Char
  rest : List Char
  /-- Whether the line of the last word was left. -/
  leftLine : Bool

/-- The further words of a plain scalar. Those of later lines have to reach a
column outside flow collections. -/
def plainWords (flow : Bool) (least : Nat) : (limit : Nat) → List Char → Plain
  | 0, s => ⟨[], s, false⟩
  | limit + 1, s =>
    let go (separator : List Char) (leftLine : Bool) (s : List Char) : Plain :=
      let word := if s.head? = some '#' then [] else plainWord flow s
      if word = [] then ⟨[], s, leftLine⟩
      else
        let more := plainWords flow least limit (s.drop word.length)
        { more with value := separator ++ word ++ more.value }
    let spaces := s.takeWhile (· = ' ')
    match s.drop spaces.length with
    | [] => ⟨[], [], false⟩
    | c :: after =>
      if isBreak c then
        let (breaks, column, next) := plainBreaks 0 after
        if (column = 0 ∧ isMark next) ∨ (!flow ∧ column < least) then ⟨[], next, true⟩
        else go (folded c breaks) true next
      else if spaces = [] then ⟨[], s, false⟩
      else go spaces false (c :: after)

/-- The plain scalar at the start of a text. -/
def plain (flow : Bool) (least : Nat) (s : List Char) : Plain :=
  let word := plainWord flow s
  let more := plainWords flow least s.length (s.drop word.length)
  { more with value := word ++ more.value }

/-! ## Block scalars -/

/-- What becomes of the line breaks at the end of a block scalar. -/
inductive Chomping where
  | strip
  | clip
  | keep

/-- The sign that chooses what becomes of the last line breaks. -/
def chomping? : Char → Option Chomping
  | '-' => some .strip
  | '+' => some .keep
  | _ => none

/-- A digit that says how far a block scalar is indented. -/
def increment? (c : Char) : Option Nat :=
  if '1' ≤ c ∧ c ≤ '9' then some (c.toNat - '0'.toNat) else none

/-- The line behind the sign of a block scalar: the two choices in any order,
and perhaps a comment. -/
def blockHeader? (s : List Char) : Option (Chomping × Option Nat × List Char) := do
  let (chomping, increment, s) := match s with
    | c :: d :: rest =>
      match chomping? c, increment? d, increment? c, chomping? d with
      | some chomping, some n, _, _ => (chomping, some n, rest)
      | some chomping, none, _, _ => (chomping, none, d :: rest)
      | none, _, some n, some chomping => (chomping, some n, rest)
      | none, _, some n, none => (.clip, some n, d :: rest)
      | none, _, none, _ => (.clip, none, c :: d :: rest)
    | [c] =>
      match chomping? c, increment? c with
      | some chomping, _ => (chomping, none, [])
      | none, some n => (.clip, some n, [])
      | none, none => (.clip, none, [c])
    | [] => (.clip, none, [])
  if !s.isEmpty && !(s.head?.any fun c => c == ' ' || isBreak c) then none
  let s := s.dropWhile (· = ' ')
  let s := if s.head? = some '#' then s.dropWhile (!isBreak ·) else s
  match s with
  | [] => return (chomping, increment, [])
  | c :: rest => if isBreak c then return (chomping, increment, rest) else none

/-- Where a reader of lines stands: the breaks of the empty lines behind it,
its column, and the text from there on. -/
structure Lines where
  breaks : List Char
  column : Nat
  rest : List Char

/-- The empty lines at the start of a block scalar, and the greatest column
that spaces reach up to its first character. -/
def indentation : (column greatest : Nat) → List Char → Nat × Lines
  | column, greatest, [] => (greatest, ⟨[], column, []⟩)
  | column, greatest, c :: rest =>
    if c = ' ' then indentation (column + 1) (max greatest (column + 1)) rest
    else if isBreak c then
      let (greatest, lines) := indentation 0 greatest rest
      (greatest, { lines with breaks := breakText c :: lines.breaks })
    else (greatest, ⟨[], column, c :: rest⟩)

/-- The empty lines up to one that reaches a column. -/
def blockBreaks (indent : Nat) : (column : Nat) → List Char → Lines
  | column, [] => ⟨[], column, []⟩
  | column, c :: rest =>
    if c = ' ' ∧ column < indent then blockBreaks indent (column + 1) rest
    else if isBreak c then
      let lines := blockBreaks indent 0 rest
      { lines with breaks := breakText c :: lines.breaks }
    else ⟨[], column, c :: rest⟩

/-- Whether a text starts with a character that is no blank. -/
def startsSolid (s : List Char) : Bool :=
  !(s.head?.any isBlank)

/-- The lines of a block scalar: their text, the last line break, and where
they end. -/
def blockLines (fold : Bool) (indent : Nat) :
    (limit : Nat) → Lines → List Char × List Char × Lines
  | 0, lines => ([], [], lines)
  | limit + 1, lines =>
    if lines.column ≠ indent ∨ lines.rest = [] then ([], [], lines)
    else
      let line := lines.rest.takeWhile (!isBreak ·)
      let after := lines.rest.drop line.length
      let lineBreak := (after.take 1).map breakText
      let next := blockBreaks indent (if after = [] then line.length else 0) (after.drop 1)
      if next.column = indent ∧ next.rest ≠ [] then
        let join := fold && lineBreak == ['\n'] && startsSolid lines.rest && startsSolid next.rest
        let separator :=
          if join then (if next.breaks = [] then [' '] else []) else lineBreak
        let (more, last, final) := blockLines fold indent limit next
        (lines.breaks ++ line ++ separator ++ more, last, final)
      else (lines.breaks ++ line, lineBreak, next)

/-- The block scalar behind its sign. It is indented by one column more than
what it stands in, at least. -/
def block? (fold : Bool) (least : Nat) (s : List Char) : Option (List Char × List Char) := do
  let (chomping, increment, s) ← blockHeader? s
  let (indent, start) := match increment with
    | some n => (least + n - 1, blockBreaks (least + n - 1) 0 s)
    | none =>
      let (greatest, lines) := indentation 0 0 s
      (max least greatest, lines)
  let (value, last, final) := blockLines fold indent s.length.succ start
  match chomping with
  | .strip => return (value, final.rest)
  | .clip => return (value ++ last, final.rest)
  | .keep => return (value ++ last ++ final.breaks, final.rest)

end Yaml

end Reckon
