import Reckon.Document.Yaml.Fault
/-!
# Document — YAML tokens

What the structure of a document is told by: the signs of flow collections,
the starts and ends that the columns of blocks stand for, keys and values,
and scalars with their properties.
-/

namespace Reckon

namespace Yaml

/-- What a directive at the start of a document says. -/
inductive Directive where
  /-- The version of the language, by its major number. -/
  | version (major : Nat)
  /-- A handle for the start of tags. -/
  | handle (name start : String)
  | unknown
deriving DecidableEq

/-- How a scalar is written. -/
inductive Style where
  | plain
  /-- Between quotes, or as a block of lines. -/
  | quoted
  /-- Between quotes, with half a character among its escapes. -/
  | garbled
deriving DecidableEq

/-- A token. A tag has a handle, where it is not written out. -/
inductive Token where
  | directive (d : Directive)
  | documentStart
  | documentEnd
  | blockSequenceStart
  | blockMappingStart
  | blockEnd
  | flowSequenceStart
  | flowSequenceEnd
  | flowMappingStart
  | flowMappingEnd
  | blockEntry
  | flowEntry
  | key
  | value
  | reference (name : String)
  | anchor (name : String)
  | tag (handle : Option String) (suffix : String)
  | scalar (text : String) (style : Style)
deriving DecidableEq

/-- The tokens of a text, up to a fault where there is one. -/
structure Scanned where
  tokens : List Token
  fault? : Option Fault := none

end Yaml

end Reckon
