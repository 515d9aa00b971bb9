import Reckon.Number.Arithmetic
import Reckon.Proofs.Number.Rounded
/-!
# Number — the sign of a double

One times a double is the double, and minus one times it is the double with the other sign
(`unit_mul`, `neg_unit_mul`), of zeros, infinities and NaN as well: a product that a double holds
exactly is not rounded (`mul_eq_of_value`).
-/

namespace Reckon

namespace Number

open Float.Model.UnpackedFloat

variable {s : Sign} {m : Nat} {e : Int} {hm : 0 < m} {u v w : Float}

/-- **A double is NaN, an infinity, a zero, or a mantissa and an exponent with a sign.** -/
theorem double_cases {P : Float → Prop} (hnan : P nan) (hinfinity : P infinity)
    (hinfinity' : P (-infinity)) (hzero : P 0.0) (hzero' : P (-0.0))
    (hfinite : ∀ v s m e hm, v.toModel.unpack = .finite s m e hm → P v) (v : Float) : P v := by
  cases hu : v.toModel.unpack with
  | notANumber => rwa [(eq_of_unpack_eq hu : v = nan)]
  | infinity s =>
    cases s with
    | positive => rwa [(eq_of_unpack_eq hu : v = infinity)]
    | negative => rwa [(eq_of_unpack_eq hu : v = -infinity)]
  | zero s =>
    cases s with
    | positive => rwa [(eq_of_unpack_eq hu : v = 0.0)]
    | negative => rwa [(eq_of_unpack_eq hu : v = -0.0)]
  | finite s m e hm => exact hfinite v s m e hm hu

theorem isFinite_of_unpack (hv : v.toModel.unpack = .finite s m e hm) : v.isFinite = true := by
  change v.toModel.unpack.isFinite = true
  rw [hv]
  rfl

theorem value_neg_of_unpack (hv : v.toModel.unpack = .finite s m e hm) :
    value (-v) = -value v := by
  rw [value, value, unpack_neg hv, hv, unpackedValue, unpackedValue, signed_neg]

theorem value_one : value 1 = 1 := by
  change ((2 ^ 52 : Nat) : ℚ) * 2 ^ (-52 : ℤ) = 1
  norm_num

/-- **A product that is a double exactly is that double,** if it is not zero. -/
theorem mul_eq_of_value (hu : u.isFinite = true) (hv : v.isFinite = true)
    (hw : w.toModel.unpack = .finite s m e hm) (h : value u * value v = value w) : u * v = w := by
  have hexact : nearest (value w) = value w :=
    nearest_of_representable (representable_value (isFinite_of_unpack hw))
  have hround := isRounded_mul hu hv
  rw [h] at hround
  have hfinite : (u * v).isFinite = true := by
    rw [hround.isFinite_iff, hexact]
    exact abs_value_le w
  exact (eq_of_value_eq hw hfinite ((hround.value_eq hfinite).trans hexact).symm).symm

/-- **One times a double is the double.** -/
theorem unit_mul (v : Float) : 1 * v = v := by
  refine double_cases (P := fun v => 1 * v = v) rfl rfl rfl rfl rfl (fun v s m e hm hu => ?_) v
  exact mul_eq_of_value rfl (isFinite_of_unpack hu) hu (by rw [value_one, one_mul])

/-- **Minus one times a double is the double with the other sign.** -/
theorem neg_unit_mul (v : Float) : -1 * v = -v := by
  refine double_cases (P := fun v => -1 * v = -v) rfl rfl rfl rfl rfl (fun v s m e hm hu => ?_) v
  have hvalue : value (-1) * value v = value (-v) := by
    rw [value_neg_of_unpack hu, value_neg_of_unpack (v := 1) rfl, value_one, neg_one_mul]
  exact mul_eq_of_value rfl (isFinite_of_unpack hu) (unpack_neg hu) hvalue

/-- With the other sign twice a double is itself. -/
theorem neg_of_neg (v : Float) : - -v = v := by
  refine double_cases (P := fun v => - -v = v) rfl rfl rfl rfl rfl (fun v s m e hm hu => ?_) v
  refine eq_of_unpack_eq ?_
  rw [unpack_neg (unpack_neg hu), hu]
  cases s <;> rfl

end Number

end Reckon
