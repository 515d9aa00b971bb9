import Reckon.Document.Yaml.Scan
import Reckon.Document.Yaml.Word
/-!
# Document — YAML nodes

The tokens of a document make a tree of nodes. A node may have a tag and an
anchor, and an alias stands for the node of an anchor before it. Nothing may
be written where a scalar could stand. `root?` reads the node of a text that
holds one document.
-/

namespace Reckon

namespace Yaml

/-- A node of a document. -/
inductive Node where
  | scalar (tag : Tag) (text : List Char)
  | sequence (tag : Tag) (items : List Node)
  | mapping (tag : Tag) (entries : List (Node × Node))
  /-- Another mention of a node. -/
  | mention (target : Node)
  /-- A mention of a collection inside itself. -/
  | inside (tag : Tag) (isMapping : Bool)

/-- A scalar of which nothing is written. -/
def Node.empty : Node := .scalar .null []

/-- Where a reader of tokens stands: the tokens ahead and the fault behind
them, the handles of tags, the nodes of the anchors, and the number of
collections around it. -/
structure Reader where
  ahead : List Token
  fault? : Option Fault := none
  handles : List (String × String) := []
  anchors : List (String × Node) := []
  depth : Nat := 0

/-- The most collections that may be nested. -/
def greatestDepth : Nat := 488

/-- A step of a reader. -/
abbrev Reading := StateT Reader (Except Fault)

namespace Reading

/-- Finds the document malformed. -/
def refuse {α : Type} : Reading α := throw .malformed

/-- The next token. -/
def peek : Reading (Option Token) := do
  let r ← get
  match r.ahead, r.fault? with
  | t :: _, _ => return some t
  | [], some fault => throw fault
  | [], none => return none

/-- Moves past the next token. -/
def skip : Reading Unit :=
  modify fun r => { r with ahead := r.ahead.drop 1 }

/-- Whether the next token is one of these. -/
def isNext (ts : List Token) : Reading Bool := do
  return (← peek).any (· ∈ ts)

/-- Moves past the next token if it is this one. -/
def accept (t : Token) : Reading Bool := do
  if ← isNext [t] then
    skip
    return true
  else return false

/-- Requires a token. -/
def expect (t : Token) : Reading Unit := do
  if !(← accept t) then refuse

/-! ## Properties -/

/-- The anchor and the tag of a node. -/
structure Properties where
  anchor : Option String := none
  tag : Option String := none

/-- The anchor that comes next. -/
def anchor? : Reading (Option String) := do
  match ← peek with
  | some (.anchor name) =>
    skip
    return some name
  | _ => return none

/-- The tag that comes next, with the start that its handle stands for. -/
def tag? : Reading (Option String) := do
  match ← peek with
  | some (.tag none suffix) =>
    skip
    return some suffix
  | some (.tag (some handle) suffix) =>
    skip
    match (← get).handles.lookup handle with
    | some start => return some (start ++ suffix)
    | none => refuse
  | _ => return none

/-- The anchor and the tag that come next, in any order. -/
def properties : Reading Properties := do
  let first ← anchor?
  let tag ← tag?
  if first.isSome then return { anchor := first, tag }
  else return { anchor := ← anchor?, tag }

namespace Properties

/-- Whether nothing is written. -/
def isEmpty (p : Properties) : Bool :=
  p.anchor.isNone && p.tag.isNone

/-- The tag that is written, where it is no choice by looks. -/
def written? (p : Properties) : Option Tag :=
  (p.tag.filter (· ≠ "!")).map Tag.ofName

/-- The tag of a scalar. A quoted one is a text unless it is to be told by
its looks. -/
def ofScalar (p : Properties) (style : Style) (s : List Char) : Tag :=
  let tag := p.written?.getD (if style = .plain ∨ p.tag.isSome then Tag.ofWord s else .text)
  if tag = .text ∧ style = .garbled then .garbled else tag

end Properties

/-- The node of an anchor that was met before. -/
def aliased (name : String) : Reading Node := do
  match (← get).anchors.lookup name with
  | some (.inside tag isMapping) => return .inside tag isMapping
  | some node => return .mention node
  | none => refuse

/-- Sets the node of an anchor. -/
def setAnchor (anchor : Option String) (node : Node) : Reading Unit :=
  match anchor with
  | some name => modify fun r => { r with anchors := (name, node) :: r.anchors }
  | none => return ()

/-- Reads the node of an anchor, which may not have been met before. -/
def anchored (p : Properties) (read : Reading Node) : Reading Node := do
  let anchors := (← get).anchors
  if p.anchor.any fun name => (anchors.lookup name).isSome then refuse
  let node ← read
  setAnchor p.anchor node
  return node

/-- Reads within a collection, which its anchor stands for there. -/
def within {α : Type} (p : Properties) (inside : Node) (read : Reading α) : Reading α := do
  let depth := (← get).depth
  if greatestDepth ≤ depth then throw .tooDeep
  setAnchor p.anchor inside
  modify fun r => { r with depth := depth + 1 }
  let a ← read
  modify fun r => { r with depth }
  return a

/-! ## Nodes -/

mutual

/-- A node. Blocks may start only where `block` says so, and the items of a
sequence stand alone only where `bare` does. -/
def node : (limit : Nat) → (block bare : Bool) → Reading Node
  | 0, _, _ => refuse
  | limit + 1, block, bare => do
    if let some (.reference name) ← peek then
      skip
      aliased name
    else
      let p ← properties
      anchored p (content limit block bare p)

/-- What a node with these properties holds. -/
def content : (limit : Nat) → (block bare : Bool) → Properties → Reading Node
  | 0, _, _, _ => refuse
  | limit + 1, block, bare, p => do
    let sequence (read : Reading (List Node)) : Reading Node := do
      let tag := p.written?.getD .sequence
      return .sequence tag (← within p (.inside tag false) read)
    let mapping (read : Reading (List (Node × Node))) : Reading Node := do
      let tag := p.written?.getD .mapping
      return .mapping tag (← within p (.inside tag true) read)
    match ← peek with
    | some (.scalar text style) =>
      skip
      return .scalar (p.ofScalar style text.toList) text.toList
    | some .flowSequenceStart =>
      skip
      sequence (flowItems limit true)
    | some .flowMappingStart =>
      skip
      mapping (flowEntries limit true)
    | some .blockSequenceStart =>
      if !block then refuse
      skip
      sequence (blockItems limit)
    | some .blockMappingStart =>
      if !block then refuse
      skip
      mapping (blockEntries limit)
    | next =>
      if bare && next = some .blockEntry then sequence (bareItems limit)
      else if p.isEmpty then refuse
      else return .scalar (p.ofScalar .plain []) []

/-- A node, or nothing before certain tokens. -/
def nodeBefore : (limit : Nat) → (block bare : Bool) → List Token → Reading Node
  | 0, _, _, _ => refuse
  | limit + 1, block, bare, ends => do
    if ← isNext ends then return .empty else node limit block bare

/-- The items of a block sequence, up to its end. -/
def blockItems : (limit : Nat) → Reading (List Node)
  | 0 => refuse
  | limit + 1 => do
    if ← accept .blockEntry then
      let item ← nodeBefore limit true false [.blockEntry, .blockEnd]
      return item :: (← blockItems limit)
    else
      expect .blockEnd
      return []

/-- The items of a sequence that starts no block. -/
def bareItems : (limit : Nat) → Reading (List Node)
  | 0 => refuse
  | limit + 1 => do
    if ← accept .blockEntry then
      let item ← nodeBefore limit true false [.blockEntry, .key, .value, .blockEnd]
      return item :: (← bareItems limit)
    else return []

/-- The entries of a block mapping, up to its end. -/
def blockEntries : (limit : Nat) → Reading (List (Node × Node))
  | 0 => refuse
  | limit + 1 => do
    if ← accept .key then
      let ends := [Token.key, .value, .blockEnd]
      let key ← nodeBefore limit true true ends
      let value ← if ← accept .value then nodeBefore limit true true ends else pure .empty
      return (key, value) :: (← blockEntries limit)
    else
      expect .blockEnd
      return []

/-- A key of a flow collection with its value, before the token that ends the
collection. -/
def flowPair : (limit : Nat) → (close : Token) → Reading (Node × Node)
  | 0, _ => refuse
  | limit + 1, close => do
    let key ← nodeBefore limit false false [.value, .flowEntry, close]
    let value ← if ← accept .value then nodeBefore limit false false [.flowEntry, close]
      else pure .empty
    return (key, value)

/-- The items of a flow sequence, up to its end. A single pair is a mapping
of its own. -/
def flowItems : (limit : Nat) → (first : Bool) → Reading (List Node)
  | 0, _ => refuse
  | limit + 1, first => do
    if ← accept .flowSequenceEnd then return []
    if !first then expect .flowEntry
    if ← accept .key then
      let pair ← within {} .empty (flowPair limit .flowSequenceEnd)
      return .mapping .mapping [pair] :: (← flowItems limit false)
    else if ← accept .flowSequenceEnd then return []
    else
      let item ← node limit false false
      return item :: (← flowItems limit false)

/-- The entries of a flow mapping, up to its end. -/
def flowEntries : (limit : Nat) → (first : Bool) → Reading (List (Node × Node))
  | 0, _ => refuse
  | limit + 1, first => do
    if ← accept .flowMappingEnd then return []
    if !first then expect .flowEntry
    if ← accept .key then
      let pair ← flowPair limit .flowMappingEnd
      return pair :: (← flowEntries limit false)
    else if ← accept .flowMappingEnd then return []
    else
      let key ← node limit false false
      return (key, .empty) :: (← flowEntries limit false)

end

/-! ## Documents -/

/-- The handles that every document has. -/
def commonHandles : List (String × String) :=
  [("!", "!"), ("!!", commonStart)]

/-- The directives of a document: at most one version, which has to be a
common one, and handles, each at most once. -/
def directives (hasVersion : Bool) (handles : List (String × String)) :
    List Token → Option (List Token × List (String × String))
  | .directive (.version major) :: rest =>
    if hasVersion || major ≠ 1 then none else directives true handles rest
  | .directive (.handle name start) :: rest =>
    if (handles.lookup name).isSome then none
    else directives hasVersion ((name, start) :: handles) rest
  | .directive .unknown :: rest => directives hasVersion handles rest
  | rest => some (rest, handles ++ commonHandles)

/-- The root node of a document that follows its mark. -/
def afterMark (limit : Nat) : Reading Node := do
  match ← peek with
  | none | some .documentStart | some .documentEnd | some (.directive _) => return .empty
  | some _ => node limit true false

/-- The root node of a document, whose mark may be missing where there are no
directives. -/
def document (limit : Nat) : Reading Node := do
  match ← peek with
  | some .documentStart | some (.directive _) =>
    match directives false [] (← get).ahead with
    | none => refuse
    | some (ahead, handles) =>
      modify fun r => { r with ahead, handles }
      expect .documentStart
      afterMark limit
  | _ =>
    modify fun r => { r with handles := commonHandles }
    node limit true false

/-- Moves past the marks for the end of a document. -/
def skipEnds : Reading Unit :=
  modify fun r => { r with ahead := r.ahead.dropWhile (· = .documentEnd) }

/-- The root node of a text, where there is a document. There may not be
two. -/
def text (limit : Nat) : Reading (Option Node) := do
  if (← peek).isNone then return none
  let root ← document limit
  skipEnds
  if (← peek).isSome then refuse
  return some root

end Reading

/-- **The root node of a text that was scanned,** where there is a document. -/
def root? (s : Scanned) : Except Fault (Option Node) :=
  Reading.text (4 * s.tokens.length + 4)
    |>.run' { ahead := s.tokens, fault? := s.fault? }

end Yaml

end Reckon
