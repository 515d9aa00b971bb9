import Mathlib.Order.WithBot
import Reckon.Proofs.Number.Value
/-!
# Number — the order of the doubles

Apart from NaN the doubles are ordered as the rational numbers that they are, with an infinity at
either end (`lt_iff_place_lt`), and only the two zeros share a place (`beq_iff_place_eq`). So all
that holds in a linear order holds of their comparisons.
-/

namespace Reckon

namespace Number

open Float.Model (UnpackedFloat)
open Float.Model.UnpackedFloat

/-- The rational numbers with an infinity at either end. -/
abbrev Line := WithBot (WithTop ℚ)

/-- The place of an unpacked double on the line. -/
def unpackedPlace : UnpackedFloat → Line
  | .infinity .negative => ⊥
  | .infinity .positive => (⊤ : WithTop ℚ)
  | u => (unpackedValue u : WithTop ℚ)

/-- **The place of a double on the line;** NaN has none of its own. -/
def place (v : Float) : Line :=
  unpackedPlace v.toModel.unpack

variable {u : UnpackedFloat} {v w : Float}

/-! ## Comparisons of unpacked doubles -/

theorem compare_line (p q : ℚ) : compare ((p : WithTop ℚ) : Line) (q : WithTop ℚ) = compare p q := by
  have hmono : StrictMono fun q : ℚ => ((q : WithTop ℚ) : Line) :=
    WithBot.coe_strictMono.comp WithTop.coe_strictMono
  rw [← cmp_eq_compare, ← cmp_eq_compare]
  exact hmono.cmp_map_eq p q

theorem unpackedPlace_of_proper (hu : Proper u) :
    unpackedPlace u = ((unpackedValue u : WithTop ℚ) : Line) := by
  cases u with
  | notANumber | infinity => exact hu.elim
  | zero | finite => rfl

/-- The infinities lie beyond all that is finite. -/
theorem unpackedPlace_between (hu : Proper u) :
    unpackedPlace (.infinity .negative) < unpackedPlace u ∧
      unpackedPlace u < unpackedPlace (.infinity .positive) := by
  rw [unpackedPlace_of_proper hu]
  exact ⟨WithBot.bot_lt_coe _, WithBot.coe_lt_coe.mpr (WithTop.coe_lt_top _)⟩

/-- And so they compare. -/
theorem compare_infinity_eq_place (s : Sign) (hu : Proper u) :
    (UnpackedFloat.infinity s).compare u =
        some (compare (unpackedPlace (.infinity s)) (unpackedPlace u)) ∧
      u.compare (.infinity s) =
        some (compare (unpackedPlace u) (unpackedPlace (.infinity s))) := by
  obtain ⟨hbelow, habove⟩ := unpackedPlace_between hu
  obtain ⟨hgt, hgt'⟩ := compare_infinity hu
  cases s with
  | negative =>
    rw [compare_lt_iff_lt.mpr hbelow, compare_gt_iff_gt.mpr hbelow]
    refine ⟨?_, hgt⟩
    cases u with
    | notANumber | infinity => exact hu.elim
    | zero s => rfl
    | finite s => cases s <;> rfl
  | positive =>
    rw [compare_lt_iff_lt.mpr habove, compare_gt_iff_gt.mpr habove]
    refine ⟨hgt', ?_⟩
    cases u with
    | notANumber | infinity => exact hu.elim
    | zero s => rfl
    | finite s => cases s <;> rfl

/-! ## Doubles -/

/-- A double that is a number is an infinity, or finite. -/
theorem cases_of_not_isNaN (hv : v.isNaN = false) :
    (∃ s, v.toModel.unpack = .infinity s) ∨ v.isFinite = true := by
  replace hv : v.toModel.unpack.isNaN = false := hv
  change _ ∨ v.toModel.unpack.isFinite = true
  cases hu : v.toModel.unpack with
  | notANumber => rw [hu] at hv; cases hv
  | infinity s => exact .inl ⟨s, rfl⟩
  | zero | finite => exact .inr rfl

section Numbers

variable (hv : v.isNaN = false) (hw : w.isNaN = false)

include hv hw

/-- Numbers are compared by their places. -/
theorem compare_eq_place :
    v.toModel.unpack.compare w.toModel.unpack = some (compare (place v) (place w)) := by
  rw [place, place]
  rcases cases_of_not_isNaN hv with ⟨s, hs⟩ | hvf
  · rcases cases_of_not_isNaN hw with ⟨s', hs'⟩ | hwf
    · rw [hs, hs']
      cases s <;> cases s' <;> rfl
    · rw [hs]
      exact (compare_infinity_eq_place s (proper_unpack hwf)).1
  · rcases cases_of_not_isNaN hw with ⟨s', hs'⟩ | hwf
    · rw [hs']
      exact (compare_infinity_eq_place s' (proper_unpack hvf)).2
    · have hp := proper_unpack hvf
      have hp' := proper_unpack hwf
      rw [unpackedPlace_of_proper hp, unpackedPlace_of_proper hp', compare_line,
        compare_eq_of_proper hp hp']

/-- **The order of the numbers is that of their places.** -/
theorem lt_iff_place_lt : v < w ↔ place v < place w := by
  rw [lt_iff_unpack, compare_eq_place hv hw, Option.some.injEq, compare_lt_iff_lt]

theorem beq_iff_place_eq : (v == w) = true ↔ place v = place w := by
  have hbeq : (v == w) = (v.toModel.unpack.compare w.toModel.unpack == some .eq) := rfl
  rw [hbeq, beq_iff_eq, compare_eq_place hv hw, Option.some.injEq, compare_eq_iff_eq]

end Numbers

end Number

end Reckon
