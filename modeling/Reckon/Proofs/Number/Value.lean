import Reckon.Proofs.Number.Nearest
import Reckon.Proofs.Number.Positive
import Reckon.Proofs.Number.Unpacked
/-!
# Number — doubles as rational numbers

The rational number that a finite double is, and the order of the doubles read off it
(`lt_iff_value_lt`, `le_iff_value_le`): a canonical form with the greater exponent is the greater
number, whatever the mantissas (`Canonical.lt_of_exponent_lt`).
-/

namespace Reckon

namespace Number

open Float.Model (UnpackedFloat Format)
open Float.Model.UnpackedFloat

/-- A number with a sign. -/
def signed : Sign → ℚ → ℚ
  | .negative, q => -q
  | .positive, q => q

/-- The number that an unpacked double stands for; what is not finite stands for zero. -/
def unpackedValue : UnpackedFloat → ℚ
  | .finite s m e _ => signed s (m * 2 ^ e)
  | _ => 0

theorem unpackedValue_zero (s : Sign) : unpackedValue (.zero s) = 0 := rfl

/-- **The number that a finite double is.** -/
def value (v : Float) : ℚ :=
  unpackedValue v.toModel.unpack

variable {m m' : Nat} {e e' : Int} {s : Sign} {u u' : UnpackedFloat} {v w x : Float}

/-! ## Canonical forms -/

namespace Canonical

variable (hc : Canonical m e)

include hc

theorem value_pos : (0 : ℚ) < m * 2 ^ e :=
  mul_pos (Nat.cast_pos.mpr hc.pos) (two_zpow_pos e)

/-- The greater exponent decides: below it are 53 bits at most, and above the least exponent all
of them are in use. -/
theorem lt_of_exponent_lt (hc' : Canonical m' e') (he : e < e') :
    (m : ℚ) * 2 ^ e < m' * 2 ^ e' := by
  have hfull : 2 ^ 52 ≤ m' := hc'.normal.resolve_right (by have := hc.least; omega)
  calc (m : ℚ) * 2 ^ e
      < 2 ^ (53 : ℕ) * 2 ^ e :=
        mul_lt_mul_of_pos_right (by exact_mod_cast hc.lt) (two_zpow_pos e)
    _ = 2 ^ (52 : ℕ) * 2 ^ (e + 1) := by rw [zpow_add_one₀ two_ne_zero]; ring
    _ ≤ 2 ^ (52 : ℕ) * 2 ^ e' :=
        mul_le_mul_of_nonneg_left (zpow_le_zpow_right₀ one_le_two he) (by positivity)
    _ ≤ m' * 2 ^ e' :=
        mul_le_mul_of_nonneg_right (by exact_mod_cast hfull) (two_zpow_pos e').le

/-- So the exponents are compared first, and then the mantissas. -/
theorem compare_eq (hc' : Canonical m' e') :
    (compare e e').then (compare m m') = compare ((m : ℚ) * 2 ^ e) (m' * 2 ^ e') := by
  rcases lt_trichotomy e e' with he | rfl | he
  · rw [compare_lt_iff_lt.mpr he, compare_lt_iff_lt.mpr (hc.lt_of_exponent_lt hc' he)]
    rfl
  · have hscale : ∀ {k l : ℕ}, k < l → (k : ℚ) * 2 ^ e < l * 2 ^ e := fun h =>
      mul_lt_mul_of_pos_right (Nat.cast_lt.mpr h) (two_zpow_pos e)
    rw [compare_eq_iff_eq.mpr rfl]
    rcases lt_trichotomy m m' with hm | rfl | hm
    · rw [compare_lt_iff_lt.mpr hm, compare_lt_iff_lt.mpr (hscale hm)]
      rfl
    · rw [compare_eq_iff_eq.mpr rfl, compare_eq_iff_eq.mpr rfl]
      rfl
    · rw [compare_gt_iff_gt.mpr hm, compare_gt_iff_gt.mpr (hscale hm)]
      rfl
  · rw [compare_gt_iff_gt.mpr he, compare_gt_iff_gt.mpr (hc'.lt_of_exponent_lt hc he)]
    rfl

/-- A number has one canonical form at most. -/
theorem eq_of_value_eq (hc' : Canonical m' e') (h : (m : ℚ) * 2 ^ e = m' * 2 ^ e') :
    m = m' ∧ e = e' := by
  rcases lt_trichotomy e e' with he | rfl | he
  · exact absurd h (hc.lt_of_exponent_lt hc' he).ne
  · exact ⟨Nat.cast_injective (mul_right_cancel₀ (two_zpow_pos e).ne' h), rfl⟩
  · exact absurd h (hc'.lt_of_exponent_lt hc he).ne'

end Canonical

/-! ## The order -/

/-- **Unpacked doubles that a double can unpack to,** as far as they are finite: a zero, or a
canonical form. -/
def Proper : UnpackedFloat → Prop
  | .finite _ m e _ => Canonical m e
  | .zero _ => True
  | _ => False

theorem proper_unpack (hv : v.isFinite = true) : Proper v.toModel.unpack := by
  replace hv : v.toModel.unpack.isFinite = true := hv
  cases hu : v.toModel.unpack with
  | notANumber | infinity => rw [hu] at hv; cases hv
  | zero => trivial
  | finite s m e hm => exact (canonical_of_unpack hu).1

theorem compare_neg_neg (p q : ℚ) : compare (-p) (-q) = (compare p q).swap := by
  rcases lt_trichotomy p q with h | rfl | h
  · rw [compare_lt_iff_lt.mpr h, compare_gt_iff_gt.mpr (neg_lt_neg h)]
    rfl
  · rw [compare_eq_iff_eq.mpr rfl, compare_eq_iff_eq.mpr rfl]
    rfl
  · rw [compare_gt_iff_gt.mpr h, compare_lt_iff_lt.mpr (neg_lt_neg h)]
    rfl

/-- Finite doubles are compared by their values. -/
theorem compare_eq_of_proper (hu : Proper u) (hu' : Proper u') :
    u.compare u' = some (compare (unpackedValue u) (unpackedValue u')) := by
  cases u with
  | notANumber | infinity => exact hu.elim
  | zero s =>
    cases u' with
    | notANumber | infinity => exact hu'.elim
    | zero s' => exact congrArg some (compare_eq_iff_eq.mpr rfl).symm
    | finite s' m' e' hm' =>
      have hpos := Canonical.value_pos hu'
      cases s' with
      | negative =>
        refine congrArg some (compare_gt_iff_gt.mpr ?_).symm
        simpa [unpackedValue, signed] using hpos
      | positive =>
        refine congrArg some (compare_lt_iff_lt.mpr ?_).symm
        simpa [unpackedValue, signed] using hpos
  | finite s m e hm =>
    have hpos := Canonical.value_pos hu
    cases u' with
    | notANumber | infinity => exact hu'.elim
    | zero s' =>
      cases s with
      | negative =>
        refine congrArg some (compare_lt_iff_lt.mpr ?_).symm
        simpa [unpackedValue, signed] using hpos
      | positive =>
        refine congrArg some (compare_gt_iff_gt.mpr ?_).symm
        simpa [unpackedValue, signed] using hpos
    | finite s' m' e' hm' =>
      have hpos' := Canonical.value_pos hu'
      have hcompare := Canonical.compare_eq hu hu'
      cases s <;> cases s' <;> simp only [unpackedValue, signed]
      · rw [compare_neg_neg, ← hcompare]
        rfl
      · refine congrArg some (compare_lt_iff_lt.mpr ?_).symm
        linarith
      · refine congrArg some (compare_gt_iff_gt.mpr ?_).symm
        linarith
      · rw [← hcompare]
        rfl

/-- The infinities are beyond them. -/
theorem compare_infinity (hu : Proper u) : u.compare (.infinity .negative) = some .gt ∧
    (UnpackedFloat.infinity .positive).compare u = some .gt := by
  cases u with
  | notANumber | infinity => exact hu.elim
  | zero s => exact ⟨rfl, rfl⟩
  | finite s m e hm => cases s <;> exact ⟨rfl, rfl⟩

theorem lt_of_unpack_infinity (hv : v.isFinite = true)
    (hw : w.toModel.unpack = .infinity .positive) : v < w := by
  have hproper := proper_unpack hv
  rw [lt_iff_unpack, hw]
  cases hu : v.toModel.unpack with
  | notANumber | infinity =>
    rw [hu] at hproper
    exact hproper.elim
  | zero s => rfl
  | finite s m e hm => cases s <;> rfl

section Finite

variable (hv : v.isFinite = true) (hw : w.isFinite = true)

include hv hw

/-- **The order of finite doubles is that of their values.** -/
theorem lt_iff_value_lt : v < w ↔ value v < value w := by
  rw [lt_iff_unpack, compare_eq_of_proper (proper_unpack hv) (proper_unpack hw),
    Option.some.injEq, compare_lt_iff_lt]
  rfl

theorem le_iff_value_le : v ≤ w ↔ value v ≤ value w := by
  rw [le_iff_unpack, compare_eq_of_proper (proper_unpack hv) (proper_unpack hw), Option.any_some]
  exact Ordering.isLE_iff_ne_gt.trans compare_le_iff_le

theorem beq_iff_value_eq : (v == w) = true ↔ value v = value w := by
  have hbeq : (v == w) = (v.toModel.unpack.compare w.toModel.unpack == some .eq) := rfl
  rw [hbeq, beq_iff_eq, compare_eq_of_proper (proper_unpack hv) (proper_unpack hw), Option.some.injEq,
    compare_eq_iff_eq]
  rfl

omit hw in
theorem le_refl_of_isFinite : v ≤ v :=
  (le_iff_value_le hv hv).mpr le_rfl

/-- What lies between finite doubles is finite. -/
theorem isFinite_of_between (hvx : v ≤ x) (hxw : x ≤ w) : x.isFinite = true := by
  change x.toModel.unpack.isFinite = true
  rw [le_iff_unpack] at hvx hxw
  cases hx : x.toModel.unpack with
  | zero | finite => rfl
  | notANumber =>
    rw [hx] at hxw
    cases hxw
  | infinity s =>
    cases s with
    | negative =>
      rw [hx, (compare_infinity (proper_unpack hv)).1] at hvx
      cases hvx
    | positive =>
      rw [hx, (compare_infinity (proper_unpack hw)).2] at hxw
      cases hxw

end Finite

/-- **A double that is not zero is determined by its value.** -/
theorem eq_of_value_eq {hm : 0 < m} (hv : v.toModel.unpack = .finite s m e hm)
    (hw : w.isFinite = true) (h : value v = value w) : v = w := by
  obtain ⟨hc, -⟩ := canonical_of_unpack hv
  have hpos := hc.value_pos
  rw [value, value, hv, unpackedValue] at h
  rcases cases_of_isFinite hw with rfl | rfl | ⟨s', m', e', hm', hu⟩
  · replace h : signed s (m * 2 ^ e) = 0 := h
    cases s <;> rw [signed] at h <;> linarith
  · replace h : signed s (m * 2 ^ e) = 0 := h
    cases s <;> rw [signed] at h <;> linarith
  · obtain ⟨hc', -⟩ := canonical_of_unpack hu
    have hpos' := hc'.value_pos
    rw [hu, unpackedValue] at h
    obtain ⟨rfl, hsame⟩ : s = s' ∧ (m : ℚ) * 2 ^ e = m' * 2 ^ e' := by
      cases s <;> cases s' <;> rw [signed, signed] at h
      · exact ⟨rfl, neg_injective h⟩
      · linarith
      · linarith
      · exact ⟨rfl, h⟩
    obtain ⟨rfl, rfl⟩ := hc.eq_of_value_eq hc' hsame
    exact eq_of_unpack_eq (hv.trans hu.symm)

end Number

end Reckon
