import Reckon.Number.Arithmetic
import Reckon.Proofs.Number.Positive
import Reckon.Proofs.Number.Rounding
import Reckon.Proofs.Number.Value
/-!
# Number — the greatest double

No finite double is above the greatest one, and every infinite one is. With
zero over some double added, the greatest double stays what it is or is no
number any more (`greatest_add_zero_div`), so that there is no slope between
two such sums (`vanishing_slope`).
-/

namespace Reckon

namespace Number

open Float.Model (UnpackedFloat Format)
open Float.Model.UnpackedFloat

/-- The greatest double. -/
def greatest : Float := Float.ofBits 0x7fefffffffffffff

theorem unpack_greatest :
    greatest.toModel.unpack = .finite .positive (2 ^ 53 - 1) 971 (by decide) := rfl

variable {v w z : Float} {s : Sign} {m : Nat} {e : Int} {hm : 0 < m}

/-- No finite double is above it. -/
theorem not_greatest_lt (hv : v.isFinite = true) : ¬ greatest < v := by
  intro hlt
  rw [lt_iff_unpack] at hlt
  replace hv : v.toModel.unpack.isFinite = true := hv
  rw [unpack_greatest] at hlt
  cases hu : v.toModel.unpack with
  | notANumber | infinity => rw [hu] at hv; cases hv
  | zero => rw [hu] at hlt; cases hlt
  | finite s m e hm =>
    obtain ⟨hc, he⟩ := canonical_of_unpack hu
    rw [hu] at hlt
    cases s with
    | negative => cases hlt
    | positive =>
      -- the greatest exponent with the greatest mantissa: neither part can be exceeded
      have hmantissa := hc.lt
      simp only [UnpackedFloat.compare, Option.some.injEq,
        Ordering.then_eq_lt, Int.compare_eq_lt, Nat.compare_eq_lt] at hlt
      omega

/-- Every infinite one above zero is above all that are finite. -/
theorem lt_of_not_isFinite (hv : v.isFinite = true) (hw : 0 < w) (hw' : w.isFinite = false) :
    v < w := by
  have hu : w.toModel.unpack = .infinity .positive := by
    obtain hu | ⟨m, e, hm, hu⟩ := unpack_of_pos hw
    · exact hu
    · replace hw' : w.toModel.unpack.isFinite = false := hw'
      rw [hu] at hw'
      cases hw'
  exact lt_of_unpack_infinity hv hu

/-! ## What vanishes beside it -/

/-- Zero over a double is zero or no number. -/
theorem unpack_zero_div (z : Float) : (∃ s, (0 / z).toModel.unpack = .zero s) ∨
    (0 / z).toModel.unpack = .notANumber := by
  change (∃ s, (Float.Model.pack (UnpackedFloat.div Format.binary64 (.zero .positive)
    z.toModel.unpack)).unpack = .zero s) ∨ (Float.Model.pack (UnpackedFloat.div Format.binary64
      (.zero .positive) z.toModel.unpack)).unpack = .notANumber
  cases z.toModel.unpack with
  | notANumber | zero s =>
    simp only [UnpackedFloat.div]
    exact .inr rfl
  | infinity s | finite s =>
    rw [UnpackedFloat.div]
    cases s <;> exact .inl ⟨_, rfl⟩

/-- Zero or no number is no slope. -/
theorem flat_of_unpack (h : (∃ s, v.toModel.unpack = .zero s) ∨
    v.toModel.unpack = .notANumber) : (v == 0 || !v.isFinite) = true := by
  change (UnpackedFloat.beq v.toModel.unpack (.zero .positive) ||
    !v.toModel.unpack.isFinite) = true
  obtain ⟨s, hv⟩ | hv := h <;> rw [hv] <;> rfl

theorem add_of_unpack_zero (h : z.toModel.unpack = .zero s) : greatest + z = greatest := by
  refine eq_of_unpack_eq ?_
  change (Float.Model.pack (UnpackedFloat.add Format.binary64 greatest.toModel.unpack
    z.toModel.unpack)).unpack = _
  rw [h]
  rfl

theorem greatest_add_zero_div (z : Float) :
    greatest + 0 / z = greatest ∨ greatest + 0 / z = nan := by
  obtain ⟨s, h⟩ | h := unpack_zero_div z
  · exact .inl (add_of_unpack_zero h)
  · refine .inr (eq_of_unpack_eq ?_)
    change (Float.Model.pack (UnpackedFloat.add Format.binary64 greatest.toModel.unpack
      (0 / z).toModel.unpack)).unpack = _
    rw [h]
    rfl

/-- **There is no slope between such sums.** -/
theorem vanishing_slope (hv : v = greatest ∨ v = nan) (hw : w = greatest ∨ w = nan) (z : Float) :
    ((v - w) / z == 0 || !((v - w) / z).isFinite) = true := by
  have hdifference : v - w = 0 ∨ v - w = nan := by
    obtain rfl | rfl := hv <;> obtain rfl | rfl := hw
    · exact .inl (eq_of_unpack_eq rfl)
    · exact .inr (eq_of_unpack_eq rfl)
    · exact .inr (eq_of_unpack_eq rfl)
    · exact .inr (eq_of_unpack_eq rfl)
  obtain h | h := hdifference
  · rw [h]
    exact flat_of_unpack (unpack_zero_div z)
  · rw [h]
    refine flat_of_unpack (.inr ?_)
    change (Float.Model.pack (UnpackedFloat.div Format.binary64 .notANumber
      z.toModel.unpack)).unpack = .notANumber
    rw [UnpackedFloat.div]
    rfl

/-! ## Differences -/

/-- What is finite is no distance away from itself. -/
theorem sub_self_of_isFinite (hv : v.isFinite = true) : v - v = 0 := by
  refine eq_of_unpack_eq ?_
  change (Float.Model.pack (UnpackedFloat.sub Format.binary64 v.toModel.unpack
    v.toModel.unpack)).unpack = .zero .positive
  rcases cases_of_isFinite hv with rfl | rfl | ⟨s, m, e, hm, hu⟩
  · rfl
  · rfl
  · rw [hu, UnpackedFloat.sub]
    simp only [Int.sub_self, UnpackedFloat.normalize, Int.compare_eq_eq.mpr]
    rfl

/-! ## Doubles above zero -/

theorem zero_add_of_pos (hv : 0 < v) : 0 + v = v := by
  refine eq_of_unpack_eq ?_
  change (Float.Model.pack (UnpackedFloat.add Format.binary64 (.zero .positive)
    v.toModel.unpack)).unpack = _
  obtain h | ⟨m, e, hm, h⟩ := unpack_of_pos hv <;>
  · simp only [h, UnpackedFloat.add]
    rw [← h, pack_unpack]

section Finite

variable (h : v.toModel.unpack = .finite .positive m e hm)

include h

theorem sub_self_beq_zero : (v - v == 0) = true := by
  have hfinite : v.isFinite = true := by
    change v.toModel.unpack.isFinite = true
    rw [h]
    rfl
  rw [sub_self_of_isFinite hfinite]
  rfl

theorem unpack_zero_sub : (0 - v).toModel.unpack = .finite .negative m e hm := by
  obtain ⟨hc, he⟩ := canonical_of_unpack h
  change (Float.Model.pack (UnpackedFloat.sub Format.binary64 (.zero .positive)
    v.toModel.unpack)).unpack = _
  rw [h]
  change (Float.Model.pack (.finite .negative m e hm)).unpack = _
  rw [unpack_pack hc, if_pos he]

/-- Zero over what is below zero vanishes. -/
theorem greatest_add_zero_div_neg : greatest + 0 / (0 - v) = greatest := by
  refine add_of_unpack_zero (s := .negative) ?_
  change (Float.Model.pack (UnpackedFloat.div Format.binary64 (.zero .positive)
    (0 - v).toModel.unpack)).unpack = _
  rw [unpack_zero_sub h, UnpackedFloat.div]
  rfl

/-- What is taken from zero is not above zero. -/
theorem zero_sub_ne (hw : 0 < w) : 0 - w ≠ v := by
  intro heq
  subst heq
  obtain hu | ⟨m', e', hm', hu⟩ := unpack_of_pos hw
  · change (Float.Model.pack (UnpackedFloat.sub Format.binary64 (.zero .positive)
      w.toModel.unpack)).unpack = _ at h
    rw [hu] at h
    cases h
  · rw [unpack_zero_sub hu] at h
    cases h

end Finite

end Number

end Reckon
