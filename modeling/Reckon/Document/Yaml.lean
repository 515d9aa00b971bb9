import Reckon.Document.Yaml.Content
import Reckon.Text.Line
/-!
# Document — YAML documents

A settings file is a text that holds one document. `read` goes the whole way
from the text to what it says: characters, tokens, the tree of nodes, and
the values of the nodes.
-/

namespace Reckon

namespace Yaml

/-- **What a text says.** One without a document says nothing. -/
def read (text : String) : Except Fault Content := do
  let s := Text.unixLines text.toList
  if !s.all isPrintable then throw .malformed
  let scanned := tokens s
  match ← root? scanned with
  | none => return .nothing
  | some root => content scanned.tokens.length root

/-- Reading from the tokens on, where these are known. -/
theorem read_of_tokens {text : String} (scanned : List Token)
    (hlines : Text.unixLines text.toList = text.toList)
    (hprintable : text.toList.all isPrintable = true)
    (htokens : (tokens text.toList).tokens = scanned)
    (hfault : (tokens text.toList).fault? = none) :
    read text = (do
      match ← root? { tokens := scanned } with
      | none => return .nothing
      | some root => content scanned.length root) := by
  simp only [read, hlines, hprintable, root?, htokens, hfault]
  rfl

end Yaml

end Reckon
