import Reckon.Proofs.Number.Infinite
import Reckon.Proofs.Number.Rounded
/-!
# Number — halves and differences

What rounding leaves of two exact facts: half of a double is finite exactly if the double is
(`isFinite_half`), and doubles that differ have a difference that is not zero (`sub_beq_zero`).
-/

namespace Reckon

namespace Number

variable {v w : Float}

/-! ## Halves -/

theorem isRounded_half (hv : v.isFinite = true) : IsRounded (value v / 2) (v / 2) := by
  have htwo : value 2 = 2 := by
    change ((2 ^ 52 : Nat) : ℚ) * 2 ^ (-51 : ℤ) = 2
    norm_num
  have hdiv := isRounded_div hv (rfl : (2 : Float).isFinite = true)
    (by rw [htwo]; exact two_ne_zero)
  rwa [htwo] at hdiv

/-- **Half of a double is finite exactly if the double is.** -/
theorem isFinite_half (v : Float) : (v / 2).isFinite = v.isFinite := by
  cases hv : v.isFinite with
  | false => exact not_isFinite_div hv 2
  | true =>
    have hhalf := isRounded_half hv
    have hself := isRounded_self hv
    rcases le_total 0 (value v) with h | h
    · exact hhalf.isFinite_of_between isRounded_zero hself rfl hv (by linarith) (by linarith)
    · exact hhalf.isFinite_of_between hself isRounded_zero hv rfl (by linarith) (by linarith)

/-! ## Differences -/

theorem not_beq_zero (hv : v.isFinite = false) : (v == 0) = false := by
  replace hv : v.toModel.unpack.isFinite = false := hv
  change Float.Model.UnpackedFloat.beq v.toModel.unpack (.zero .positive) = false
  cases hu : v.toModel.unpack with
  | zero | finite => rw [hu] at hv; cases hv
  | notANumber => rfl
  | infinity s => cases s <;> rfl

/-- **The difference of two doubles that differ is not zero,** where the second is finite and not
zero: the exact one is a multiple of the least unit. -/
theorem sub_beq_zero {s : Float.Model.UnpackedFloat.Sign} {m : Nat} {e : Int} {hm : 0 < m}
    (hw : w.toModel.unpack = .finite s m e hm) (h : v ≠ w) : (v - w == 0) = false := by
  have hfinite : w.isFinite = true := by
    change w.toModel.unpack.isFinite = true
    rw [hw]
    rfl
  cases hv : v.isFinite with
  | false => exact not_beq_zero (not_isFinite_sub hv w)
  | true =>
    have hne : value v - value w ≠ 0 := fun hzero =>
      h (eq_of_value_eq hw hv (sub_eq_zero.mp hzero).symm).symm
    have hround := isRounded_sub hv hfinite
    cases hdifference : (v - w).isFinite with
    | false => exact not_beq_zero hdifference
    | true =>
      have hgrid := (onLeastGrid_value hv).sub (onLeastGrid_value hfinite)
      rw [← Bool.not_eq_true, beq_iff_value_eq hdifference rfl, hround.value_eq hdifference]
      exact nearest_ne_zero hgrid hne

end Number

end Reckon
