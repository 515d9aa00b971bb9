import Reckon.Document.Yaml.Figure
import Reckon.Document.Yaml.Node
/-!
# Document — what YAML nodes say

A document says nothing, or it is a mapping of values, or something else. The
entries of a mapping may be taken from other mappings, which they come
behind. What stands inside the collections of a document has to be well
formed too, level by level. `content` reads a node of a document.
-/

namespace Reckon

namespace Yaml

/-- What a document says. -/
inductive Content where
  /-- Null, an empty collection, or another value that counts as false. -/
  | nothing
  | entries (pairs : List (Value × Value))
  | other
deriving DecidableEq

/-- Whether nodes with the tag are said to be collections. -/
def Tag.isCollection : Tag → Bool
  | sequence | pairs | mapping | set => true
  | null | truth | whole | real | moment | text | garbled | bytes | merge | value | unknown =>
    false

namespace Node

/-- The node that is mentioned. -/
def target : Node → Node
  | mention node => node.target
  | node => node

/-- The tag of a node. -/
def tag : Node → Tag
  | scalar tag _ | sequence tag _ | mapping tag _ | inside tag _ => tag
  | mention node => node.tag

/-- The node with another tag. -/
def withTag (tag : Tag) : Node → Node
  | scalar _ s => scalar tag s
  | sequence _ items => sequence tag items
  | mapping _ entries => mapping tag entries
  | inside _ isMapping => inside tag isMapping
  | mention node => node.withTag tag

/-! ## Values -/

mutual

/-- The text that a node has as a scalar. A mapping has that of its default
value, which may not lead back into it. -/
def scalarText : Node → Except Fault (List Char)
  | scalar _ s => .ok s
  | sequence _ _ | inside _ false => .error .malformed
  | mapping _ entries => defaultText entries
  | mention node => node.scalarText
  | inside _ true => .error .tooDeep

/-- The text of the default value among entries. -/
def defaultText : List (Node × Node) → Except Fault (List Char)
  | [] => .error .malformed
  | (key, value) :: rest =>
    if key.tag = .value then value.scalarText else defaultText rest

end

/-- The value of a node. Of a collection only its kind is told, which is that
of its tag. -/
def value (n : Node) : Except Fault Value :=
  match n.target, n.tag with
  | _, .sequence | _, .pairs | _, .set => .ok .list
  | _, .mapping => .ok .table
  | inside _ _, _ | _, .unknown | _, .merge | _, .value => .error .malformed
  | mapping _ _, .moment => n.scalarText >>= fun _ => .error .momentOfMapping
  | _, tag => n.scalarText >>= valueOf tag

/-- Whether a node is the key of entries that are taken from others. -/
def isMergeKey (n : Node) : Bool :=
  n.tag = .merge

/-- The key as a key: the sign of a default value is a text there. -/
def asKey (n : Node) : Node :=
  if n.tag = .value then n.withTag .text else n

/-! ## Entries -/

mutual

/-- The entries of a mapping, behind those that it takes from others. -/
def flatten : (limit : Nat) → List (Node × Node) → Except Fault (List (Node × Node))
  | 0, entries => .ok entries
  | limit + 1, entries => do
    let sources := (entries.filter fun (key, _) => key.isMergeKey).map (·.2)
    let own := (entries.filter fun (key, _) => !key.isMergeKey).map fun (key, value) =>
      (key.asKey, value)
    return (← sources.mapM (merged limit)).flatten ++ own

/-- The entries taken from a mapping, or from each mapping of a sequence; of
those the first comes last. -/
def merged : (limit : Nat) → Node → Except Fault (List (Node × Node))
  | 0, _ => .ok []
  | limit + 1, source =>
    match source.target with
    | mapping _ entries => flatten limit entries
    | sequence _ items => do
      return (← items.mapM (mergedItem limit)).reverse.flatten
    | inside _ _ => .ok []
    | scalar _ _ | mention _ => .error .malformed

/-- The entries taken from an item. -/
def mergedItem : (limit : Nat) → Node → Except Fault (List (Node × Node))
  | 0, _ => .ok []
  | limit + 1, item =>
    match item.target with
    | mapping _ entries => flatten limit entries
    | inside _ true => .ok []
    | inside _ false | sequence _ _ | scalar _ _ | mention _ => .error .malformed

end

/-! ## What stands inside -/

/-- A node inside a collection. -/
structure Part where
  node : Node
  isKey : Bool := false

/-- The two parts of an entry. -/
def entryParts (entry : Node × Node) : List Part :=
  [{ node := entry.1, isKey := true }, { node := entry.2 }]

/-- The parts of an item of pairs, which is a mapping of one entry. -/
def pairParts (item : Node) : Except Fault (List Part) :=
  match item.target with
  | mapping _ [(key, value)] => .ok [{ node := key }, { node := value }]
  | _ => .error .malformed

/-- The groups of parts of a collection, which are looked at one by one. What
is said to be a collection has to be one. -/
def partGroups (limit : Nat) (n : Node) : Except Fault (List (Except Fault (List Part))) :=
  match n with
  | sequence .sequence items => .ok (items.map fun item => .ok [{ node := item }])
  | sequence .pairs items => .ok (items.map pairParts)
  | mapping .mapping entries | mapping .set entries => do
    return (← flatten limit entries).map fun entry => .ok (entryParts entry)
  | _ => .error .malformed

/-- Whether a node is said to be a collection, and is met for the first time. -/
def isCollection : Node → Bool
  | scalar tag _ | sequence tag _ | mapping tag _ => tag.isCollection
  | mention _ | inside _ _ => false

/-- Checks a part of a collection. A collection is no key. -/
def checkPart (part : Part) : Except Fault Unit := do
  let value ← part.node.value
  if part.isKey ∧ (value = .list ∨ value = .table) then throw .malformed

/-- Checks the parts of a collection, and gives the collections among them. -/
def checkParts (limit : Nat) (n : Node) : Except Fault (List Node) := do
  let groups ← (← n.partGroups limit).mapM fun group => do
    let parts ← group
    parts.forM checkPart
    return parts
  return (groups.flatten.map (·.node)).filter isCollection

/-- Checks what stands inside collections of one level, then the next. -/
def checkLevels (size : Nat) : (limit : Nat) → List Node → Except Fault Unit
  | 0, _ => .ok ()
  | _, [] => .ok ()
  | limit + 1, level => do
    checkLevels size limit (← level.mapM (checkParts size)).flatten

end Node

/-- Whether a value that is no collection counts as false. -/
def isFalse : Value → Bool
  | .nothing => true
  | .quantity q => q.integer? = some 0 || q == .real 0.0 || q == .real (-0.0)
  | .text s => s.isEmpty
  | .bytes s => s = some ""
  | .garbled | .moment | .list | .table => false

/-- **What a document says** with a root node, which was read from so many
tokens at most. -/
def content (size : Nat) (root : Node) : Except Fault Content := do
  let value ← root.value
  Node.checkLevels size size ([root].filter Node.isCollection)
  match root with
  | .sequence _ [] => return .nothing
  | .mapping .set entries =>
    return if (← Node.flatten size entries) = [] then .nothing else .other
  | .mapping .mapping entries =>
    let pairs ← (← Node.flatten size entries).mapM fun (key, item) => do
      return (← key.value, ← item.value)
    return if pairs = [] then .nothing else .entries pairs
  | _ => return if isFalse value then .nothing else .other

end Yaml

end Reckon
