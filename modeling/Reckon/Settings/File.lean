import Reckon.Document.Yaml
import Reckon.Settings.Resolve
/-!
# Settings — settings files

A settings file is a YAML mapping of field names to values. A file that
does not exist, and a document that says nothing, give nothing; any other
document than a mapping of texts is refused.
-/

namespace Reckon

namespace Settings

/-- Why a settings file gives no settings. -/
inductive FileError where
  /-- The text has no value. -/
  | fault (f : Yaml.Fault)
  /-- The document is no mapping. -/
  | notMapping (path : String)
  /-- A key is no text. -/
  | keysNotText
  /-- Fields are refused. -/
  | invalid (problems : Problems)

/-- What is said of a document that is no mapping. -/
def notMappingMessage (path : String) : String :=
  "Config file must contain a mapping: " ++ path

/-- The wording of one problem after another. -/
def problemText (problems : Problems) : String :=
  "\n".intercalate (problems.map fun (f, issue) => f.name ++ ": " ++ issue.name)

/-- The wording of an error. -/
def FileError.message : FileError → String
  | fault f => f.message
  | notMapping path => notMappingMessage path
  | keysNotText => "keywords must be strings"
  | invalid problems => problemText problems

/-- Whether an error breaks a run off, where others are reported: one that is
neither of the document's form nor of the values in it. -/
def FileError.breaksOff : FileError → Bool
  | fault f => f.breaksOff
  | keysNotText => true
  | notMapping _ | invalid _ => false

/-- An entry under its name. A garbled text names nothing. -/
def namedEntry? : Value × Value → Except FileError (Option (String × Value))
  | (.text name, value) => .ok (some (name, value))
  | (.garbled, _) => .ok none
  | _ => .error .keysNotText

/-- What a document gives. -/
def givenBy (path : String) : Yaml.Content → Except FileError (List (String × Value))
  | .nothing => .ok []
  | .entries pairs => return (← pairs.mapM namedEntry?).filterMap id
  | .other => .error (.notMapping path)

/-- **The settings of a file,** with the other sources below it, by a library. -/
def Library.ofFile (lib : Library) (path : String) (text? : Option String) (sources : Sources) :
    Except FileError Settings := do
  let given ← (match text? with
    | none => .ok []
    | some text => (Yaml.read text).mapError .fault >>= givenBy path :
      Except FileError (List (String × Value)))
  (lib.resolve { sources with given := given }).mapError .invalid

/-- **The settings of a file.** -/
def ofFile : String → Option String → Sources → Except FileError Settings :=
  Library.standard.ofFile

end Settings

end Reckon
