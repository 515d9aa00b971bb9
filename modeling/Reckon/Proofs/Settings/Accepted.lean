import Reckon.Proofs.Except
import Reckon.Settings.File
/-!
# Settings — what settings may hold

Settings that are given hold in every field what its conversion lets pass, or
the default, which would pass as well (`accepted_of_ofRecord`), whatever lawful
library checks them. A settings file gives no others (`accepted_of_ofFile`).
-/

namespace Reckon

deriving instance DecidableEq for Settings

namespace Settings

/-- **What settings may hold:** one of five levels, a nesting bound that a
parser accepts, counts from their least value on, and steps and tolerances
above zero. -/
structure Accepted (s : Settings) : Prop where
  logLevel : s.logLevel ∈ levels
  maxNestingDepth : leastBound ≤ s.maxNestingDepth ∧ s.maxNestingDepth ≤ greatestBound
  derivativeStep : 0 < s.derivativeStep
  integrationIntervals : 2 ≤ s.integrationIntervals
  rootTolerance : 0 < s.rootTolerance
  rootMaxIterations : 1 ≤ s.rootMaxIterations
  limitStep : 0 < s.limitStep
  limitTolerance : 0 < s.limitTolerance
  extremumTolerance : 0 < s.extremumTolerance

/-! ## One field -/

theorem le_of_toCount {least : Int} {greatest : Option Int} {value : Value} {n : Int}
    (h : toCount least greatest value = .ok n) : least ≤ n ∧ ∀ m ∈ greatest, n ≤ m := by
  obtain ⟨w, -, h⟩ := Except.bind_eq_ok_iff.mp h
  split at h
  · cases h
  · split at h
    · cases h
    · next hl hg =>
      cases h
      refine ⟨Int.not_lt.mp hl, fun m hm => Int.not_lt.mp fun hn => hg ?_⟩
      rw [Option.mem_def] at hm
      simp [hm, hn]

theorem pos_of_toPositive {value : Value} {v : Float} (h : toPositive value = .ok v) : 0 < v := by
  obtain ⟨w, -, h⟩ := Except.bind_eq_ok_iff.mp h
  split at h
  · next hw =>
    cases h
    exact hw
  · cases h

theorem mem_of_toLevel {value : Value} {s : String} (h : toLevel value = .ok s) : s ∈ levels := by
  cases value with
  | text t =>
    rw [toLevel] at h
    split at h
    · next ht =>
      cases h
      exact ht
    · cases h
  | nothing | quantity | garbled | bytes | moment | list | table => cases h

variable {α β : Type} {record : Record}

/-- A field has its default or what its conversion lets pass, so what holds of
both holds of it. -/
theorem field_satisfies {P : α → Prop} {f : Field} {convert : Value → Except Issue α}
    {configured a : α} (h : field f convert configured record = .ok a) (hd : P configured)
    (hc : ∀ value a, convert value = .ok a → P a) : P a := by
  rw [field] at h
  split at h
  · next value _ => exact hc value a (Except.mapError_eq_ok_iff.mp h)
  · cases h
    exact hd

/-! ## All fields -/

section Also

variable {lib : Library} (hlib : lib.Lawful)

include hlib

/-- Lawful libraries put checks together as the standard one does. -/
theorem Library.Lawful.also_eq (f : Except Problems (α → β)) (x : Except Problems α) :
    lib.also f x = Library.standard.also f x := by
  cases f with
  | ok g =>
    cases x with
    | ok a => exact hlib.also_values g a
    | error qs => exact hlib.also_first g qs
  | error ps =>
    cases x with
    | ok a => exact hlib.also_before ps a
    | error qs => exact hlib.also_further ps qs

/-- Fields that are checked one after another have values where each has. -/
theorem also_eq_ok {f : Except Problems (α → β)} {x : Except Problems α} {b : β}
    (h : lib.also f x = .ok b) : ∃ g a, f = .ok g ∧ x = .ok a ∧ g a = b := by
  rw [hlib.also_eq] at h
  cases f <;> cases x <;> cases h
  exact ⟨_, _, rfl, rfl, rfl⟩

end Also

/-- Settings have in every field what that was found to be. -/
structure Checked (record : Record) (s : Settings) : Prop where
  logLevel : field .logLevel toLevel default.logLevel record = .ok s.logLevel
  maxNestingDepth : field .maxNestingDepth (toCount leastBound (some greatestBound))
    default.maxNestingDepth record = .ok s.maxNestingDepth
  derivativeStep : field .derivativeStep toPositive default.derivativeStep record =
    .ok s.derivativeStep
  integrationIntervals : field .integrationIntervals (toCount 2 none)
    default.integrationIntervals record = .ok s.integrationIntervals
  rootTolerance : field .rootTolerance toPositive default.rootTolerance record =
    .ok s.rootTolerance
  rootMaxIterations : field .rootMaxIterations (toCount 1 none)
    default.rootMaxIterations record = .ok s.rootMaxIterations
  limitStep : field .limitStep toPositive default.limitStep record = .ok s.limitStep
  limitTolerance : field .limitTolerance toPositive default.limitTolerance record =
    .ok s.limitTolerance
  extremumTolerance : field .extremumTolerance toPositive default.extremumTolerance record =
    .ok s.extremumTolerance

section Library

variable {lib : Library} (hlib : lib.Lawful)

include hlib

theorem checked_of_ofRecord {s : Settings} (h : lib.ofRecord record = .ok s) :
    s.Checked record := by
  obtain ⟨_, extremumTolerance, h₁, hextremum, rfl⟩ := also_eq_ok hlib h
  obtain ⟨_, limitTolerance, h₂, hlimit, rfl⟩ := also_eq_ok hlib h₁
  obtain ⟨_, limitStep, h₃, hstep, rfl⟩ := also_eq_ok hlib h₂
  obtain ⟨_, rootMaxIterations, h₄, hbudget, rfl⟩ := also_eq_ok hlib h₃
  obtain ⟨_, rootTolerance, h₅, hroot, rfl⟩ := also_eq_ok hlib h₄
  obtain ⟨_, integrationIntervals, h₆, hintervals, rfl⟩ := also_eq_ok hlib h₅
  obtain ⟨_, derivativeStep, h₇, hslope, rfl⟩ := also_eq_ok hlib h₆
  obtain ⟨_, maxNestingDepth, h₈, hbound, rfl⟩ := also_eq_ok hlib h₇
  obtain ⟨_, logLevel, h₉, hlevel, rfl⟩ := also_eq_ok hlib h₈
  cases h₉
  exact ⟨hlevel, hbound, hslope, hintervals, hroot, hbudget, hstep, hlimit, hextremum⟩

/-- **Settings hold what the conversions of their fields let pass.** -/
theorem accepted_of_ofRecord {s : Settings} (h : lib.ofRecord record = .ok s) :
    s.Accepted := by
  have hchecked := checked_of_ofRecord hlib h
  exact {
    logLevel := field_satisfies (P := (· ∈ levels)) hchecked.logLevel (by decide)
      fun _ _ => mem_of_toLevel
    maxNestingDepth := field_satisfies (P := fun n => leastBound ≤ n ∧ n ≤ greatestBound)
      hchecked.maxNestingDepth (by decide)
      fun _ _ hn => ⟨(le_of_toCount hn).1, (le_of_toCount hn).2 _ rfl⟩
    derivativeStep := field_satisfies hchecked.derivativeStep (by decide)
      fun _ _ => pos_of_toPositive
    integrationIntervals := field_satisfies (P := (2 ≤ ·)) hchecked.integrationIntervals
      (by decide) fun _ _ hn => (le_of_toCount hn).1
    rootTolerance := field_satisfies hchecked.rootTolerance (by decide)
      fun _ _ => pos_of_toPositive
    rootMaxIterations := field_satisfies (P := (1 ≤ ·)) hchecked.rootMaxIterations
      (by decide) fun _ _ hn => (le_of_toCount hn).1
    limitStep := field_satisfies hchecked.limitStep (by decide) fun _ _ => pos_of_toPositive
    limitTolerance := field_satisfies hchecked.limitTolerance (by decide)
      fun _ _ => pos_of_toPositive
    extremumTolerance := field_satisfies hchecked.extremumTolerance (by decide)
      fun _ _ => pos_of_toPositive }

end Library

/-- The defaults do, -/
theorem accepted_default : Settings.default.Accepted :=
  have h : Library.standard.ofRecord (fun _ => none) = .ok default := rfl
  accepted_of_ofRecord Library.standard_lawful h

/-- so do those that the sources give, -/
theorem accepted_of_resolve {sources : Sources} {s : Settings} (h : resolve sources = .ok s) :
    s.Accepted :=
  accepted_of_ofRecord Library.standard_lawful h

/-- and those that a settings file gives. -/
theorem accepted_of_ofFile {path : String} {text? : Option String} {sources : Sources}
    {s : Settings} (h : ofFile path text? sources = .ok s) : s.Accepted := by
  obtain ⟨given, -, h⟩ := Except.bind_eq_ok_iff.mp h
  exact accepted_of_resolve (Except.mapError_eq_ok_iff.mp h)

end Settings

end Reckon
