import Reckon.Builtin
import Reckon.Cli.Table
/-!
# Command line — the catalog

The names that an expression may use: the functions, then the constants,
each with its kind and the number of its arguments.
-/

namespace Reckon

namespace Cli

/-- A name that an expression may use. -/
structure CatalogEntry where
  name : String
  kind : String
  arity : String
deriving DecidableEq

/-- The short form of an arity. -/
def arityMark : Arity → String
  | .one => "1"
  | .atLeastOne => "1+"

/-- The names that an expression may use. -/
def catalog : List CatalogEntry :=
  Builtin.all.map (fun f => ⟨f.name, "function", arityMark f.arity⟩) ++
    constants.map fun (name, _) => ⟨name, "constant", "-"⟩

/-- The catalog as a table. -/
def catalogTable : Table where
  title := "Functions and Constants"
  head := ["Name", "Kind", "Arity"]
  rows := catalog.map fun entry => [entry.name, entry.kind, entry.arity]

end Cli

end Reckon
