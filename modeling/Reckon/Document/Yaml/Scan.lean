import Reckon.Document.Yaml.Scalar
import Reckon.Document.Yaml.Token
/-!
# Document — reading YAML tokens

A scanner walks over a text and tells its structure by columns. A key shows
only at the colon behind it, so a scanner remembers where the last keys may
have started, one for each level of flow collections, and puts the token in
front of the key once it meets the colon. A key has to stand on one line.
`tokens` reads a whole text, up to what is wrong with it.
-/

namespace Reckon

namespace Yaml

/-- Where a key may have started. It is required where nothing else could
stand at its column. -/
structure KeyStart where
  number : Nat
  required : Bool
  index : Nat
  line : Nat
  column : Nat

/-- Where a scanner stands, the columns of the blocks around it, and what it
has read. -/
structure Scanner where
  rest : List Char
  index : Nat := 0
  line : Nat := 0
  column : Nat := 0
  indent : Int := -1
  indents : List Int := []
  flow : Nat := 0
  keyAllowed : Bool := true
  keys : List (Nat × KeyStart) := []
  tokens : Array Token := #[]

/-- The most characters that a key may have. -/
def keyLength : Nat := 1024

namespace Scanner

/-! ## Moving -/

/-- Moves past one character. A byte order mark takes no column. -/
def step (s : Scanner) : Scanner :=
  match s.rest with
  | [] => s
  | c :: rest =>
    if isBreak c then
      { s with rest := rest, index := s.index + 1, line := s.line + 1, column := 0 }
    else if c = '\ufeff' then { s with rest := rest, index := s.index + 1 }
    else { s with rest := rest, index := s.index + 1, column := s.column + 1 }

/-- Moves past so many characters. -/
def move (s : Scanner) : (count : Nat) → Scanner
  | 0 => s
  | count + 1 => s.step.move count

/-- Moves on to where a text that was read ends. -/
def moveTo (s : Scanner) (rest : List Char) : Scanner :=
  s.move (s.rest.length - rest.length)

/-- Adds a token. -/
def push (s : Scanner) (t : Token) : Scanner :=
  { s with tokens := s.tokens.push t }

/-- Adds a token in front of the token of a number. -/
def insert (s : Scanner) (number : Nat) (t : Token) : Scanner :=
  { s with tokens :=
      (s.tokens.extract 0 number).push t ++ s.tokens.extract number s.tokens.size }

/-- Whether a document may be marked here. -/
def atMark (c : Char) (s : Scanner) : Bool :=
  s.column == 0 && s.rest.head? == some c && isMark s.rest

/-! ## Keys -/

/-- Forgets the key of the flow level that may have started. -/
def dropKey? (s : Scanner) : Option Scanner :=
  if (s.keys.lookup s.flow).any (·.required) then none
  else some { s with keys := s.keys.filter (·.1 ≠ s.flow) }

/-- Remembers that a key may start here. -/
def saveKey? (s : Scanner) : Option Scanner :=
  if s.keyAllowed then do
    let required := s.flow = 0 ∧ s.indent = s.column
    let s ← s.dropKey?
    let start : KeyStart := ⟨s.tokens.size, required, s.index, s.line, s.column⟩
    return { s with keys := (s.flow, start) :: s.keys }
  else some s

/-- Whether a key that started there can no longer be one. -/
def isStale (s : Scanner) (key : KeyStart) : Bool :=
  key.line ≠ s.line || keyLength < s.index - key.index

/-- Forgets the keys that can no longer be keys. -/
def dropStale? (s : Scanner) : Option Scanner :=
  if s.keys.any fun (_, key) => s.isStale key && key.required then none
  else some { s with keys := s.keys.filter fun (_, key) => !s.isStale key }

/-! ## Blocks -/

/-- Ends the blocks that stand beyond a column. -/
def endBlocks (column : Int) : (indents : List Int) → Scanner → Scanner
  | [], s => s
  | outer :: indents, s =>
    if column < s.indent then
      endBlocks column indents { s.push .blockEnd with indent := outer, indents := indents }
    else s

/-- Ends the blocks beyond a column, outside flow collections. -/
def unwind (s : Scanner) (column : Int) : Scanner :=
  if s.flow = 0 then endBlocks column s.indents s else s

/-- Starts a block at a column, unless one stands there. `add` adds its
token. -/
def startBlock (s : Scanner) (column : Nat) (add : Scanner → Scanner) : Scanner :=
  if s.indent < column then
    add { s with indent := column, indents := s.indent :: s.indents }
  else s

/-! ## Single tokens -/

/-- A token of so many characters, before which every block ends. -/
def documentToken? (s : Scanner) (count : Nat) (t : Token) : Option Scanner := do
  let s ← (s.unwind (-1)).dropKey?
  return ({ s with keyAllowed := false }.move count).push t

/-- The start of a flow collection. -/
def flowStart? (s : Scanner) (t : Token) : Option Scanner := do
  let s ← s.saveKey?
  return ({ s with flow := s.flow + 1, keyAllowed := true }.step).push t

/-- The end of a flow collection. -/
def flowEnd? (s : Scanner) (t : Token) : Option Scanner := do
  let s ← s.dropKey?
  return ({ s with flow := s.flow - 1, keyAllowed := false }.step).push t

/-- The comma of a flow collection. -/
def flowEntry? (s : Scanner) : Option Scanner := do
  let s ← { s with keyAllowed := true }.dropKey?
  return s.step.push .flowEntry

/-- The dash of an item. -/
def blockEntry? (s : Scanner) : Option Scanner := do
  if s.flow = 0 ∧ !s.keyAllowed then none
  let s := if s.flow = 0 then s.startBlock s.column (·.push .blockSequenceStart) else s
  let s ← { s with keyAllowed := true }.dropKey?
  return s.step.push .blockEntry

/-- The question mark of a key. -/
def key? (s : Scanner) : Option Scanner := do
  if s.flow = 0 ∧ !s.keyAllowed then none
  let s := if s.flow = 0 then s.startBlock s.column (·.push .blockMappingStart) else s
  let s ← { s with keyAllowed := s.flow = 0 }.dropKey?
  return s.step.push .key

/-- The colon of a value, behind a key that started before, or by itself. -/
def value? (s : Scanner) : Option Scanner := do
  match s.keys.lookup s.flow with
  | some start =>
    let s := { s with keys := s.keys.filter (·.1 ≠ s.flow), keyAllowed := false }
    let s := s.insert start.number .key
    let s :=
      if s.flow = 0 then s.startBlock start.column (·.insert start.number .blockMappingStart)
      else s
    return s.step.push .value
  | none =>
    if s.flow = 0 ∧ !s.keyAllowed then none
    let s := if s.flow = 0 then s.startBlock s.column (·.push .blockMappingStart) else s
    let s ← { s with keyAllowed := s.flow = 0 }.dropKey?
    return s.step.push .value

/-! ## Properties -/

/-- A character of a name. -/
def isNameChar (c : Char) : Bool :=
  c.isAlphanum || c == '-' || c == '_'

/-- The name behind the sign of an anchor or an alias. -/
def name? (s : Scanner) (make : String → Token) : Option Scanner := do
  let s ← s.saveKey?
  let s := { s with keyAllowed := false }.step
  let name := s.rest.takeWhile isNameChar
  let s := s.move name.length
  let ends := s.rest.head?.all fun c =>
    isBlank c || isBreak c || c ∈ ['?', ':', ',', ']', '\x7d', '%', '@', '\x60']
  if name = [] ∨ !ends then none
  return s.push (make (String.ofList name))

/-- A character of a tag. -/
def isTagChar (c : Char) : Bool :=
  c.isAlphanum || c ∈ ['-', ';', '/', '?', ':', '@', '&', '=', '+', '$', ',', '_', '.', '!', '~',
    '*', '\'', '(', ')', '[', ']']

/-- The bytes of the escapes at the start of a text, each a percent sign and
two hexadecimal digits. -/
def escapedBytes? : List Char → Option (List UInt8 × List Char)
  | '%' :: high :: low :: rest => do
    let byte := 16 * (← digitOf? 16 high) + (← digitOf? 16 low)
    let (bytes, rest) ← escapedBytes? rest
    return (UInt8.ofNat byte :: bytes, rest)
  | '%' :: _ => none
  | s => some ([], s)

/-- The characters of a tag. Escapes that come together are bytes of a
text. -/
def tagChars? : (limit : Nat) → List Char → Option (List Char × List Char)
  | 0, _ => none
  | limit + 1, s =>
    if s.head? = some '%' then do
      let (bytes, rest) ← escapedBytes? s
      let text ← String.fromUTF8? ⟨bytes.toArray⟩
      let (more, rest) ← tagChars? limit rest
      return (text.toList ++ more, rest)
    else
      let part := s.takeWhile isTagChar
      let rest := s.drop part.length
      if rest.head? = some '%' then
        (tagChars? limit rest).map fun (more, rest) => (part ++ more, rest)
      else some (part, rest)

/-- The characters of a tag, of which there is at least one. -/
def tagPart? (s : List Char) : Option (String × List Char) := do
  let (part, rest) ← tagChars? s.length.succ s
  if part = [] then none else return (String.ofList part, rest)

/-- A handle: a name between exclamation marks, or one of them. -/
def handle? (s : List Char) : Option (String × List Char) :=
  match s with
  | '!' :: rest =>
    let name := rest.takeWhile isNameChar
    match rest.head?, rest.drop name.length with
    | some ' ', _ => some ("!", rest)
    | _, '!' :: after => some (String.ofList ('!' :: name ++ ['!']), after)
    | _, after => if name = [] then some ("!", after) else none
  | _ => none

/-- A tag in the text from its exclamation mark on. -/
def tag? (s : List Char) : Option (Token × List Char) :=
  match s with
  | '!' :: '<' :: rest => do
    let (suffix, rest) ← tagPart? rest
    match rest with
    | '>' :: rest => return (.tag none suffix, rest)
    | _ => none
  | '!' :: rest =>
    if endsWord rest then some (.tag none "!", rest)
    else if '!' ∈ rest.takeWhile fun c => c ≠ ' ' ∧ !isBreak c then do
      let (handle, rest) ← handle? s
      let (suffix, rest) ← tagPart? rest
      return (.tag (some handle) suffix, rest)
    else do
      let (suffix, rest) ← tagPart? rest
      return (.tag (some "!") suffix, rest)
  | _ => none

/-- A tag. -/
def property? (s : Scanner) : Option Scanner := do
  let s ← s.saveKey?
  let (token, rest) ← tag? s.rest
  if !(rest.head?.all fun c => c == ' ' || isBreak c) then none
  return ({ s with keyAllowed := false }.moveTo rest).push token

/-! ## Directives -/

/-- The rest of a line without spaces and a comment, which has to be empty. -/
def endOfLine? (s : List Char) : Option (List Char) :=
  let s := s.dropWhile (· = ' ')
  let s := if s.head? = some '#' then s.dropWhile (!isBreak ·) else s
  match s with
  | [] => some []
  | c :: rest => if isBreak c then some rest else none

/-- The digits at the start of a text, of which there is one at least. -/
def digits? (s : List Char) : Option (Nat × List Char) :=
  let digits := s.takeWhile Char.isDigit
  if digits = [] then none else some (Nat.ofDigitChars 10 digits 0, s.drop digits.length)

/-- What a directive says, from behind its name. -/
def directiveValue? (name s : List Char) : Option (Directive × List Char) :=
  if name = ['Y', 'A', 'M', 'L'] then do
    let (major, s) ← digits? (s.dropWhile (· = ' '))
    match s with
    | '.' :: s =>
      let (_, s) ← digits? s
      if s.head?.all fun c => c == ' ' || isBreak c then return (.version major, s) else none
    | _ => none
  else if name = ['T', 'A', 'G'] then do
    let (handle, s) ← handle? (s.dropWhile (· = ' '))
    if s.head? ≠ some ' ' then none
    let (start, s) ← tagPart? (s.dropWhile (· = ' '))
    if s.head?.all fun c => c == ' ' || isBreak c then return (.handle handle start, s) else none
  else some (.unknown, s.dropWhile (!isBreak ·))

/-- A directive, behind its percent sign, up to the next line. -/
def directive? (s : List Char) : Option (Directive × List Char) := do
  let name := s.takeWhile isNameChar
  let s := s.drop name.length
  if name = [] ∨ !(s.head?.all fun c => c == ' ' || isBreak c) then none
  let (directive, s) ← directiveValue? name s
  return (directive, ← endOfLine? s)

/-- A directive line. -/
def directiveLine? (s : Scanner) : Option Scanner := do
  let s ← (s.unwind (-1)).dropKey?
  let (directive, rest) ← directive? (s.rest.drop 1)
  return ({ s with keyAllowed := false }.moveTo rest).push (.directive directive)

/-! ## Scalars -/

/-- A scalar between quotes. -/
def quotedScalar (s : Scanner) (quote : Char) : Except Fault Scanner := do
  let some s := s.saveKey? | throw .malformed
  let inside := s.rest.drop 1
  let scalar ← quoted quote inside.length.succ inside
  let style : Style := if scalar.isGarbled then .garbled else .quoted
  return ({ s with keyAllowed := false }.moveTo scalar.rest).push
    (.scalar (String.ofList scalar.value) style)

/-- The column that lines within the block have to reach. -/
def least (s : Scanner) : Nat := (s.indent + 1).toNat

/-- A block scalar. -/
def blockScalar? (s : Scanner) (fold : Bool) : Option Scanner := do
  let s ← { s with keyAllowed := true }.dropKey?
  let (value, rest) ← block? fold (max 1 s.least) (s.rest.drop 1)
  return (s.moveTo rest).push (.scalar (String.ofList value) .quoted)

/-- Whether a plain scalar starts here. -/
def startsPlain (s : Scanner) : Bool :=
  match s.rest with
  | [] => false
  | c :: rest =>
    if c == '-' then !endsWord rest
    else if c == '?' || c == ':' then !endsWord rest && s.flow = 0
    else !(isBlank c || isBreak c || isFlowSign c ||
      c ∈ ['#', '&', '*', '!', '|', '>', '\'', '"', '%', '@', '\x60'])

/-- A plain scalar. -/
def plainScalar? (s : Scanner) : Option Scanner := do
  let s ← s.saveKey?
  let scalar := plain (s.flow ≠ 0) s.least s.rest
  let s := { s with keyAllowed := scalar.leftLine }.moveTo scalar.rest
  return s.push (.scalar (String.ofList scalar.value) .plain)

/-! ## Whole texts -/

/-- Moves on to the next token: past spaces, comments and line breaks. -/
def skip : (limit : Nat) → Scanner → Scanner
  | 0, s => s
  | limit + 1, s =>
    match s.rest with
    | [] => s
    | c :: _ =>
      if c = ' ' then skip limit s.step
      else if c = '#' then
        skip limit (s.move (s.rest.takeWhile (!isBreak ·)).length)
      else if isBreak c then
        skip limit { s.step with keyAllowed := s.keyAllowed || s.flow = 0 }
      else s

/-- The token at the character `c`, which is no quote and which the text goes
on from with `rest`. -/
def tokenAt? (s : Scanner) (c : Char) (rest : List Char) : Option Scanner :=
  if c = '%' ∧ s.column = 0 then s.directiveLine?
  else if s.atMark '-' then s.documentToken? 3 .documentStart
  else if s.atMark '.' then s.documentToken? 3 .documentEnd
  else if c = '[' then s.flowStart? .flowSequenceStart
  else if c = '\x7b' then s.flowStart? .flowMappingStart
  else if c = ']' then s.flowEnd? .flowSequenceEnd
  else if c = '\x7d' then s.flowEnd? .flowMappingEnd
  else if c = ',' then s.flowEntry?
  else if c = '-' ∧ endsWord rest then s.blockEntry?
  else if c = '?' ∧ (s.flow ≠ 0 ∨ endsWord rest) then s.key?
  else if c = ':' ∧ (s.flow ≠ 0 ∨ endsWord rest) then s.value?
  else if c = '*' then s.name? .reference
  else if c = '&' then s.name? .anchor
  else if c = '!' then s.property?
  else if c = '|' ∧ s.flow = 0 then s.blockScalar? false
  else if c = '>' ∧ s.flow = 0 then s.blockScalar? true
  else if s.startsPlain then s.plainScalar?
  else none

/-- The next token. -/
def token (s : Scanner) (c : Char) (rest : List Char) : Except Fault Scanner :=
  if c = '\'' ∨ c = '"' then s.quotedScalar c
  else ((s.tokenAt? c rest).map .ok).getD (.error .malformed)

/-- How many tokens are settled: those before the first key that may have
started. -/
def settled (s : Scanner) : Nat :=
  let pending := s.keys.filter fun (_, key) => !s.isStale key
  pending.foldl (fun n (_, key) => min n key.number) s.tokens.size

/-- The tokens that are seen before a fault. -/
def stopped (s : Scanner) (fault : Fault) : Scanned where
  tokens := s.tokens.toList.take s.settled
  fault? := some fault

/-- Reads on to the end of the text. -/
def run : (limit : Nat) → Scanner → Scanned
  | 0, s => s.stopped .malformed
  | limit + 1, s =>
    match (s.skip s.rest.length).dropStale? with
    | none => s.stopped .malformed
    | some ahead =>
      let ahead := ahead.unwind ahead.column
      match ahead.rest with
      | [] =>
        match (ahead.unwind (-1)).dropKey? with
        | none => s.stopped .malformed
        | some final => { tokens := final.tokens.toList }
      | c :: rest =>
        match ahead.token c rest with
        | .error fault => s.stopped fault
        | .ok next => run limit next

end Scanner

/-- **The tokens of a text.** A byte order mark at its start is skipped. -/
def tokens (s : List Char) : Scanned :=
  let start : Scanner := { rest := s }
  let start := if s.head? = some '\ufeff' then start.step else start
  start.run s.length.succ

end Yaml

end Reckon
