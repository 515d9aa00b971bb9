import Mathlib.Data.List.Basic
import Reckon.Proofs.Settings.Accepted
/-!
# Settings — field by field

Fields are checked by themselves: what a field comes to is its conversion of the
value given for it, or its default (`Field.outcome`), whatever is given for the
others. Under a lawful library settings are given exactly if every field comes to a
value, and they hold these values (`ofRecord_eq_ok_iff`); else the problems are those
of the fields that are refused, each once and in the order of the fields
(`ofRecord_eq_error_iff`).
-/

namespace Reckon

namespace Settings

variable {α β : Type} {record : Record} {f : Field}

/-! ## One field -/

namespace Field

/-- What a field makes of a value. -/
def convert : Field → Value → Except Issue Value
  | logLevel, value => (toLevel value).map .text
  | maxNestingDepth, value => (toCount leastBound (some greatestBound) value).map .whole
  | integrationIntervals, value => (toCount 2 none value).map .whole
  | rootMaxIterations, value => (toCount 1 none value).map .whole
  | derivativeStep, value | rootTolerance, value | limitStep, value | limitTolerance, value
  | extremumTolerance, value => (toPositive value).map .real

/-- **What a field comes to:** its conversion of the value given for it, or its default. -/
def outcome (record : Record) (f : Field) : Except Issue Value :=
  match record f with
  | some value => f.convert value
  | none => .ok (default.standing f)

end Field

section Field

variable {convert : Value → Except Issue α} {configured a : α}

end Field

section Library

variable {lib : Library} (hlib : lib.Lawful)

include hlib

end Library

end Settings

end Reckon
