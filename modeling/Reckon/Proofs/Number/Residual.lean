import Reckon.Proofs.Number.Rounding
import Reckon.Proofs.Number.Value
/-!
# Number — rounding by residual bits

A shift keeps two bits of what it drops, and these are enough: a mantissa is rounded by them as the
number that they are read from (`Reads`). So any mantissa at any exponent is rounded to the nearest
double of its number (`roundsTo_round`), were there no greatest one.
-/

namespace Reckon

namespace Number

open Float.Model (UnpackedFloat Format)
open Float.Model.UnpackedFloat

variable {m m' : Nat} {e e' : Int} {s : Sign} {u : UnpackedFloat} {q : ℚ}
variable {em : ExtendedMantissa} {accuracy : Accuracy}

/-! ## Residual bits -/

/-- **The numbers that a mantissa with two residual bits is read from:** the first bit tells
whether it is half a unit above the mantissa or more, the second whether it is none of the two. -/
inductive Reads : ExtendedMantissa → ℚ → Prop
  | exact {m : Nat} {q : ℚ} : q = m → Reads ⟨m, false, false⟩ q
  | low {m : Nat} {q : ℚ} : m < q → q < m + 1 / 2 → Reads ⟨m, false, true⟩ q
  | half {m : Nat} {q : ℚ} : q = m + 1 / 2 → Reads ⟨m, true, false⟩ q
  | high {m : Nat} {q : ℚ} : m + 1 / 2 < q → q < m + 1 → Reads ⟨m, true, true⟩ q

namespace Reads

theorem bounds (h : Reads em q) : em.mantissa ≤ q ∧ q < em.mantissa + 1 := by
  cases h <;> constructor <;> linarith

theorem floor (h : Reads em q) : ⌊q⌋₊ = em.mantissa := by
  obtain ⟨hlower, hupper⟩ := h.bounds
  exact (Nat.floor_eq_iff ((Nat.cast_nonneg _).trans hlower)).mpr ⟨hlower, hupper⟩

/-- The bits are enough to round by. -/
theorem roundedMantissa (h : Reads em q) : em.roundedMantissa = toEven q := by
  have hfloor := h.floor
  rw [toEven, hfloor]
  cases h with
  | exact h =>
    rw [if_pos (by linarith)]
    rfl
  | low h h' =>
    rw [if_pos h']
    rfl
  | half h =>
    rw [if_neg (by linarith), if_pos h]
    rfl
  | high h h' =>
    rw [if_neg (by linarith), if_neg (by linarith)]
    rfl

/-- The last bit becomes the first residual one. -/
theorem half_of_between (h : m < q) (h' : q < m + 1) :
    Reads ⟨m / 2, m % 2 != 0, true⟩ (q / 2) := by
  rcases Nat.even_or_odd' m with ⟨k, rfl | rfl⟩ <;> push_cast at h h'
  · have hdiv : 2 * k / 2 = k := by omega
    have hmod : (2 * k % 2 != 0) = false := by simp
    rw [hdiv, hmod]
    exact .low (by linarith) (by linarith)
  · have hdiv : (2 * k + 1) / 2 = k := by omega
    have hmod : ((2 * k + 1) % 2 != 0) = true := by simp [Nat.add_mod]
    rw [hdiv, hmod]
    exact .high (by linarith) (by linarith)

theorem shiftRightOne (h : Reads em q) : Reads em.shiftRightOne (q / 2) := by
  cases h with
  | @exact m _ h =>
    subst h
    rcases Nat.even_or_odd' m with ⟨k, rfl | rfl⟩ <;> rw [ExtendedMantissa.shiftRightOne]
    · have hdiv : 2 * k / 2 = k := by omega
      have hmod : (2 * k % 2 != 0) = false := by simp
      simp only [hdiv, hmod, Bool.or_self]
      exact .exact (by push_cast; ring)
    · have hdiv : (2 * k + 1) / 2 = k := by omega
      have hmod : ((2 * k + 1) % 2 != 0) = true := by simp [Nat.add_mod]
      simp only [hdiv, hmod, Bool.or_self]
      exact .half (by push_cast; ring)
  | low h h' => exact half_of_between h (by linarith)
  | half h => exact half_of_between (by linarith) (by linarith)
  | high h h' => exact half_of_between (by linarith) h'

theorem shiftRight (h : Reads em q) (k : Nat) : Reads (em >>> k) (q / 2 ^ k) := by
  change Reads (k.repeat ExtendedMantissa.shiftRightOne em) _
  induction k with
  | zero => rwa [pow_zero, div_one]
  | succ k ih =>
    rw [Nat.repeat, pow_succ, ← div_div]
    exact ih.shiftRightOne

end Reads

theorem reads_accuracyOfFraction {num den : Nat} (h : num < den) :
    Reads (.ofMantissaAndAccuracy m (accuracyOfFraction num den)) (m + num / den) := by
  have hden : (0 : ℚ) < den := Nat.cast_pos.mpr (by omega)
  have hlt : (num : ℚ) / den < 1 := by
    rw [div_lt_one hden]
    exact_mod_cast h
  rw [accuracyOfFraction]
  split
  · next hnum =>
    rw [hnum, Nat.cast_zero, zero_div, add_zero]
    exact .exact rfl
  · next hnum =>
    have hpos : (0 : ℚ) < num / den := div_pos (Nat.cast_pos.mpr (by omega)) hden
    rcases lt_trichotomy (2 * num) den with hcompare | hcompare | hcompare
    · rw [compare_lt_iff_lt.mpr hcompare]
      have hhalf : (num : ℚ) / den < 1 / 2 := by
        rw [div_lt_iff₀ hden]
        have : (2 * num : ℚ) < den := by exact_mod_cast hcompare
        linarith
      exact .low (by linarith) (by linarith)
    · rw [compare_eq_iff_eq.mpr hcompare]
      have hhalf : (num : ℚ) / den = 1 / 2 := by
        rw [div_eq_iff hden.ne']
        have : (2 * num : ℚ) = den := by exact_mod_cast hcompare
        linarith
      exact .half (by linarith)
    · rw [compare_gt_iff_gt.mpr hcompare]
      have hhalf : 1 / 2 < (num : ℚ) / den := by
        rw [lt_div_iff₀ hden]
        have : (den : ℚ) < 2 * num := by exact_mod_cast hcompare
        linarith
      exact .high (by linarith) (by linarith)

/-! ## Rounding -/

theorem Canonical.representable (hc : Canonical m e) : Representable (m * 2 ^ e) :=
  ⟨m, e, hc.lt, hc.least, abs_of_pos hc.value_pos⟩

theorem nearest_signed (s : Sign) (q : ℚ) : nearest (signed s q) = signed s (nearest q) := by
  cases s with
  | positive => rfl
  | negative => exact nearest_neg q

/-- **An unpacked double is this number, rounded.** -/
structure RoundsTo (u : UnpackedFloat) (q : ℚ) : Prop where
  proper : Proper u
  value : unpackedValue u = nearest q

/-- What can be unpacked is its own number, rounded. -/
theorem roundsTo_self (hu : Proper u) : RoundsTo u (unpackedValue u) := by
  refine ⟨hu, ?_⟩
  cases u with
  | notANumber | infinity => exact hu.elim
  | zero => exact nearest_zero.symm
  | finite s m e hm =>
    have hc : Canonical m e := hu
    rw [unpackedValue, nearest_signed, nearest_of_representable hc.representable]

theorem SameValue.value_eq (h : SameValue m e m' e') : (m : ℚ) * 2 ^ e = m' * 2 ^ e' := by
  have hscale := h (min e e') (by omega) (by omega)
  have hmove (k : Nat) (i : Int) (hi : min e e' ≤ i) :
      (k : ℚ) * 2 ^ i = (k * 2 ^ (i - min e e').toNat : Nat) * 2 ^ (min e e') := by
    rw [Nat.cast_mul, Nat.cast_pow, Nat.cast_ofNat, mul_assoc, ← two_zpow_add]
    congr 2
    omega
  rw [hmove m e (by omega), hmove m' e' (by omega), hscale]

/-- The exponent at which a mantissa is rounded is that of the number it is read from. -/
theorem grid_eq (hq : 0 < q) (hlower : m * 2 ^ e ≤ q) (hupper : q < (m + 1) * 2 ^ e)
    (he : e ≤ max (m.log2 + e - 52) (-1074)) : grid q = max (m.log2 + e - 52) (-1074) := by
  refine grid_eq_of hq (le_max_right _ _) ?_ fun hleast => ?_
  · have hlog : ((m + 1 : Nat) : ℚ) ≤ 2 ^ (m.log2 + 1) := by
      exact_mod_cast Nat.lt_log2_self (n := m)
    calc q < (m + 1) * 2 ^ e := hupper
      _ ≤ 2 ^ (m.log2 + 1) * 2 ^ e :=
          mul_le_mul_of_nonneg_right (by exact_mod_cast hlog) (two_zpow_pos e).le
      _ = 2 ^ ((m.log2 + 1 : Nat) + e) := (two_zpow_add _ _).symm
      _ ≤ 2 ^ ((53 : Nat) + max (m.log2 + e - 52) (-1074)) :=
          zpow_le_zpow_right₀ one_le_two (by omega)
      _ = 2 ^ 53 * 2 ^ max (m.log2 + e - 52) (-1074) := two_zpow_add _ _
  · have hm : m ≠ 0 := by
      rintro rfl
      rw [Nat.log2_zero] at he hleast
      omega
    have hlog : ((2 ^ m.log2 : Nat) : ℚ) ≤ m := Nat.cast_le.mpr (Nat.log2_self_le hm)
    calc (2 : ℚ) ^ 52 * 2 ^ max (m.log2 + e - 52) (-1074)
        = 2 ^ ((52 : Nat) + max (m.log2 + e - 52) (-1074)) := (two_zpow_add _ _).symm
      _ = 2 ^ (m.log2 + e) := by congr 1; omega
      _ = 2 ^ m.log2 * 2 ^ e := two_zpow_add _ _
      _ ≤ m * 2 ^ e := mul_le_mul_of_nonneg_right (by exact_mod_cast hlog) (two_zpow_pos e).le
      _ ≤ q := hlower

/-- **A mantissa is rounded as the number it is read from,** where its exponent does not have to
come down. -/
theorem roundsTo_of_reads (hq : 0 < q)
    (hreads : Reads (.ofMantissaAndAccuracy m accuracy) (q / 2 ^ e))
    (he : e ≤ max (m.log2 + e - 52) (-1074)) :
    RoundsTo (roundWithAccuracy Format.binary64 s m e accuracy) (signed s q) := by
  obtain ⟨em, hem⟩ : ∃ em, ExtendedMantissa.ofMantissaAndAccuracy m accuracy = em := ⟨_, rfl⟩
  have hmantissa : em.mantissa = m := by
    rw [← hem]
    rcases accuracy with - | (- | - | -) <;> rfl
  rw [hem] at hreads
  obtain ⟨hlower, hupper⟩ := hreads.bounds
  rw [hmantissa, le_div_iff₀ (two_zpow_pos e)] at hlower
  rw [hmantissa, div_lt_iff₀ (two_zpow_pos e)] at hupper
  have hgrid := grid_eq hq hlower hupper he
  obtain ⟨k, hk⟩ := Int.le.dest (he.trans_eq hgrid.symm)
  have hshift : shiftToTargetExponent Format.binary64 m e accuracy = (em >>> k, grid q) := by
    have hamount : (grid q - e).toNat = k := by omega
    rw [shiftToTargetExponent, targetExponent_eq, ← hgrid, shiftToExponent]
    simp only [hamount, hk, hem]
  -- what is left of the mantissa is read from the number at the exponent of its own
  have hrounded : (em >>> k).roundedMantissa = toEven (q / 2 ^ grid q) := by
    have hscale : q / 2 ^ e / 2 ^ k = q / 2 ^ grid q := by
      rw [div_div, mul_comm, ← two_zpow_add, ← hk, add_comm]
    rw [(hreads.shiftRight k).roundedMantissa, hscale]
  have hnearest : nearest q = (em >>> k).roundedMantissa * 2 ^ grid q := by
    rw [hrounded]
    exact nearest_of_nonneg hq.le
  have hle := toEven_div_grid_le hq
  have hfull := (least_le_grid q).lt_or_eq.imp (le_toEven_div_grid hq) Eq.symm
  rw [← hrounded] at hle hfull
  rcases Nat.eq_zero_or_pos (em >>> k).roundedMantissa with hzero | hpos
  · rw [roundWithAccuracy_eq_zero hshift (least_le_grid q) hzero]
    refine ⟨trivial, ?_⟩
    rw [nearest_signed, hnearest, hzero, Nat.cast_zero, zero_mul]
    cases s <;> rfl
  · obtain ⟨m', e', hc, hsame, hround⟩ :=
      roundWithAccuracy_of_shift (s := s) hshift (least_le_grid q) hpos hle hfull
    rw [hround]
    refine ⟨hc, ?_⟩
    rw [nearest_signed, hnearest, hsame.value_eq, unpackedValue]

/-- **Any mantissa at any exponent is rounded to the nearest double.** -/
theorem roundsTo_round (hm : 0 < m) :
    RoundsTo (UnpackedFloat.round Format.binary64 s m e) (signed s (m * 2 ^ e)) := by
  obtain ⟨k, hk⟩ : ∃ k, (e - max ((m.log2 : Int) + e - 52) (-1074)).toNat = k := ⟨_, rfl⟩
  have hlog : (m * 2 ^ k).log2 = m.log2 + k := log2_mul_two_pow hm k
  rw [UnpackedFloat.round, targetExponent_eq, decreaseExponent]
  simp only [hk, Nat.shiftLeft_eq]
  refine roundsTo_of_reads (mul_pos (Nat.cast_pos.mpr hm) (two_zpow_pos e)) (.exact ?_) (by omega)
  rw [div_eq_iff (two_zpow_pos _).ne', Nat.cast_mul, Nat.cast_pow, Nat.cast_ofNat, mul_assoc,
    ← two_zpow_add]
  congr 2
  omega

theorem roundsTo_normalize (n : Int) (e : Int) (zero : Sign) :
    RoundsTo (UnpackedFloat.normalize Format.binary64 n e zero) (n * 2 ^ e) := by
  rw [UnpackedFloat.normalize]
  rcases Int.lt_trichotomy n 0 with h | rfl | h
  · rw [Int.compare_eq_lt.mpr h]
    have hcast : (((-n).toNat : Int) : ℚ) = -n := by
      rw [Int.toNat_of_nonneg (by omega), Int.cast_neg]
    have hround := roundsTo_round (m := (-n).toNat) (e := e) (s := .negative) (by omega)
    rwa [← Int.cast_natCast, hcast, signed, neg_mul, neg_neg] at hround
  · rw [Int.compare_eq_eq.mpr rfl]
    refine ⟨trivial, ?_⟩
    rw [Int.cast_zero, zero_mul, nearest_zero]
    rfl
  · rw [Int.compare_eq_gt.mpr h]
    have hround := roundsTo_round (m := n.toNat) (e := e) (s := .positive) (by omega)
    rwa [← Int.cast_natCast, Int.toNat_of_nonneg h.le] at hround

end Number

end Reckon
