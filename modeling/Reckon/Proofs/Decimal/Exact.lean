import Reckon.Number.Shortest
import Reckon.Proofs.Number.Rounding
/-!
# Decimal — decimals that are doubles

A decimal that stands for a finite double reads as that double, however its
digits and its exponent are divided (`toFloat_of_represents`). Every finite
double above zero is such a decimal (`toFloat_exact`).
-/

namespace Reckon

open Float.Model (UnpackedFloat Format)
open Float.Model.UnpackedFloat
open Number (Canonical SameValue)

/-! ## Exact products and quotients -/

namespace Number

variable {m m₁ m₂ : Nat} {e e₁ e₂ : Int} {s₁ s₂ : Sign} {h₁ : 0 < m₁} {h₂ : 0 < m₂}

theorem log2_le_log2_mul (hm₁ : 0 < m₁) (hm₂ : 0 < m₂) :
    m₁.log2 + m₂.log2 ≤ (m₁ * m₂).log2 := by
  rw [Nat.le_log2 (Nat.mul_pos hm₁ hm₂).ne', Nat.pow_add]
  exact Nat.mul_le_mul (Nat.log2_self_le hm₁.ne') (Nat.log2_self_le hm₂.ne')

theorem log2_mul_le (hm₁ : 0 < m₁) (hm₂ : 0 < m₂) :
    (m₁ * m₂).log2 ≤ m₁.log2 + m₂.log2 + 1 := by
  have hlt : m₁ * m₂ < 2 ^ (m₁.log2 + 1) * 2 ^ (m₂.log2 + 1) :=
    Nat.mul_lt_mul'' Nat.lt_log2_self Nat.lt_log2_self
  rw [← Nat.pow_add, ← Nat.log2_lt (Nat.mul_pos hm₁ hm₂).ne'] at hlt
  omega

/-- **A quotient that is a double is not rounded.** -/
theorem div_of_sameValue (hc : Canonical m e) (h : SameValue m₁ e₁ (m₂ * m) (e₂ + e)) :
    div Format.binary64 (.finite s₁ m₁ e₁ h₁) (.finite s₂ m₂ e₂ h₂) =
      .finite (s₁ / s₂) m e hc.pos := by
  have hbits : (Format.binary64.mantissaBits : Int) = 53 := rfl
  have hleast : Format.binary64.minExponent = -1074 := rfl
  obtain ⟨t, ht⟩ : ∃ t, min (e₁ - e₂) (Format.binary64.targetExponent
      (Float.Model.totalExponent m₁ e₁ - Float.Model.totalExponent m₂ e₂)) = t := ⟨_, rfl⟩
  -- the division is carried further down than the quotient needs
  have hte : t ≤ e := by
    have hlog := h.log2 (Nat.mul_pos h₂ hc.pos)
    have hproduct := log2_mul_le h₂ hc.pos
    have htarget := hc.target
    rw [Format.targetExponent, Float.Model.totalExponent, Float.Model.totalExponent, hbits,
      hleast] at ht
    omega
  -- the dividend is a multiple of the divisor on the scale of the division
  have hscale := h (t + e₂) (by omega) (by omega)
  have hdown : e₁ - (t + e₂) = e₁ - e₂ - t := by omega
  have hup : e₂ + e - (t + e₂) = e - t := by omega
  rw [hdown, hup, Nat.mul_assoc] at hscale
  rw [div, divCore]
  simp only [ht, Nat.shiftLeft_eq, hscale, Nat.mul_div_cancel_left _ h₂, Nat.mul_mod_right]
  refine roundWithAccuracy_of_sameValue hc hte (sameValue_of_scale (Int.le_refl t) hte ?_)
  rw [Int.sub_self, Int.toNat_zero, Nat.pow_zero, Nat.mul_one]

/-- **Nor is a product that is one,** of factors with more bits than a double. -/
theorem mul_of_sameValue (hc : Canonical m e) (hlong : 52 ≤ (m₁ * m₂).log2)
    (h : SameValue (m₁ * m₂) (e₁ + e₂) m e) :
    mul Format.binary64 (.finite s₁ m₁ e₁ h₁) (.finite s₂ m₂ e₂ h₂) =
      .finite (s₁ * s₂) m e hc.pos := by
  have hlog := h.log2 hc.pos
  have hupper := (Nat.log2_lt (k := 53) hc.pos.ne').mpr hc.lt
  rw [mul]
  exact roundWithAccuracy_of_sameValue hc (by omega) h

end Number

namespace Decimal

open Number

variable {d : Decimal} {m : Nat} {e : Int}

/-- **A decimal stands for a number** with this mantissa and exponent. -/
def Represents (d : Decimal) (m : Nat) (e : Int) : Prop :=
  SameValue (d.significand * 10 ^ d.exponent.toNat) 0 (m * 10 ^ (-d.exponent).toNat) e

/-! ## The normal form -/

/-- A zero at the end of the digits stands for a step of the exponent. -/
theorem represents_ten_mul {n : Nat} {x : Int} :
    Represents ⟨n * 10, x⟩ m e → Represents ⟨n, x + 1⟩ m e := by
  intro h t ht ht'
  have hscale := h t ht ht'
  simp only at hscale ⊢
  rcases Int.lt_or_le x 0 with hx | hx
  · have hpositive : x.toNat = 0 ∧ (x + 1).toNat = 0 := by omega
    have hnegative : (-x).toNat = (-(x + 1)).toNat + 1 := by omega
    rw [hpositive.1, hnegative, Nat.pow_succ, ← Nat.mul_assoc] at hscale
    rw [hpositive.2]
    refine Nat.eq_of_mul_eq_mul_right (by decide : 0 < 10) ?_
    rw [Nat.mul_right_comm, Nat.mul_right_comm n, hscale, Nat.mul_right_comm]
  · have hpositive : (x + 1).toNat = x.toNat + 1 := by omega
    have hnegative : (-x).toNat = 0 ∧ (-(x + 1)).toNat = 0 := by omega
    rw [hnegative.1] at hscale
    rw [hnegative.2, hpositive, Nat.pow_succ, Nat.mul_comm (10 ^ x.toNat), ← Nat.mul_assoc]
    exact hscale

/-- Taking zeros off the end leaves what a decimal stands for. -/
theorem represents_stripZeros (limit : Nat) : ∀ {n : Nat} {x : Int},
    Represents ⟨n, x⟩ m e → (stripZeros limit n x).Represents m e := by
  induction limit with
  | zero => exact id
  | succ limit ih =>
    intro n x h
    rw [stripZeros]
    split
    · next hten =>
      refine ih (represents_ten_mul ?_)
      rwa [Nat.div_mul_cancel (Nat.dvd_of_mod_eq_zero hten)]
    · exact h

/-- A decimal that stands for a number above zero has a digit that is not zero. -/
theorem Represents.significand_pos (h : d.Represents m e) (hm : 0 < m) : 0 < d.significand := by
  have hscale := h (min 0 e) (by omega) (by omega)
  have hpos : 0 < m * 10 ^ (-d.exponent).toNat * 2 ^ (e - min 0 e).toNat :=
    Nat.mul_pos (Nat.mul_pos hm (Nat.pow_pos (by decide))) (Nat.two_pow_pos _)
  rw [← hscale] at hpos
  exact Nat.pos_of_mul_pos_right (Nat.pos_of_mul_pos_right hpos)

/-- **The normal form of a decimal stands for the same number.** -/
theorem represents_normalize (h : d.Represents m e) (hm : 0 < m) :
    d.normalize.Represents m e := by
  rw [normalize, if_neg (h.significand_pos hm).ne']
  exact represents_stripZeros _ h

/-! ## Reading a decimal -/

/-- Ten is above two to the third. -/
theorem log2_add_le_log2_mul {n : Nat} (hn : 0 < n) (k : Nat) :
    n.log2 + 3 * k ≤ (n * 10 ^ k).log2 := by
  have hpow : 3 * k ≤ (10 ^ k).log2 := by
    rw [Nat.le_log2 (Nat.pow_pos (by decide)).ne', Nat.pow_mul]
    exact Nat.pow_le_pow_left (by decide) k
  have := log2_le_log2_mul hn (Nat.pow_pos (n := k) (by decide : 0 < 10))
  omega

/-- The double of a whole number with no more bits than a double. -/
theorem exists_unpack_toFloat {n : Nat} (hn : 0 < n) (hlt : n < 2 ^ 53) :
    ∃ m e, ∃ hc : Canonical m e, n.toUInt64.toFloat.toModel.unpack = .finite .positive m e hc.pos ∧
      SameValue n 0 m e := by
  have hlog := (Nat.log2_lt (k := 53) hn.ne').mpr hlt
  obtain ⟨m, e, hc, h⟩ := exists_canonical hn (by decide : -1074 ≤ 0) (by omega)
  have hexact := h.log2 hc.pos
  have hword : n.toUInt64.toNat = n := by
    rw [Nat.toUInt64, UInt64.toNat_ofNat', Nat.mod_eq_of_lt (by omega)]
  refine ⟨m, e, hc, ?_, h⟩
  change (Float.Model.pack
    (UnpackedFloat.normalize Format.binary64 (n.toUInt64.toNat : Int) 0 .positive)).unpack = _
  rw [hword, UnpackedFloat.normalize, Int.compare_eq_gt.mpr (by omega : (n : Int) > 0)]
  simp only [Int.toNat_natCast]
  rw [round_of_sameValue hc h, unpack_pack hc, if_pos (by omega)]

/-- The mantissa and the exponent of what is finite and above zero. -/
def positive? : UnpackedFloat → Option (Nat × Int)
  | .finite .positive m e _ => some (m, e)
  | _ => none

theorem eq_of_positive? {u : UnpackedFloat} (h : positive? u = some (m, e)) :
    ∃ hm, u = .finite .positive m e hm := by
  rcases u with s | _ | s | ⟨s, m', e', hm⟩
  · cases h
  · cases h
  · cases h
  · cases s with
    | negative => cases h
    | positive =>
      cases h
      exact ⟨hm, rfl⟩

/-- The powers of ten that are doubles. -/
def powerOfTen (k : Fin 23) : Float :=
  have hk : k.val < Float.exactlyRepresentablePowersOfTen.size := k.isLt
  Float.exactlyRepresentablePowersOfTen[k.val]

/-- They stand for what they are called. -/
theorem exists_unpack_powerOfTen : ∀ k : Fin 23, ∃ m e, ∃ hm : 0 < m,
    (powerOfTen k).toModel.unpack = .finite .positive m e hm ∧
    52 ≤ m.log2 ∧ SameValue (10 ^ k.val) 0 m e := by
  have table : ∀ k : Fin 23, positive? (powerOfTen k).toModel.unpack =
        some (10 ^ k.val * 2 ^ 52 / 2 ^ (10 ^ k.val).log2, ((10 ^ k.val).log2 : Int) - 52) ∧
      52 ≤ (10 ^ k.val * 2 ^ 52 / 2 ^ (10 ^ k.val).log2).log2 ∧
      10 ^ k.val * 2 ^ 52 =
        10 ^ k.val * 2 ^ 52 / 2 ^ (10 ^ k.val).log2 * 2 ^ (10 ^ k.val).log2 := by
    -- each power of ten is its mantissa and exponent: 23 closed facts
    decide +kernel
  intro k
  obtain ⟨hunpack, hlog, hscale⟩ := table k
  obtain ⟨hm, hunpack⟩ := eq_of_positive? hunpack
  refine ⟨_, _, hm, hunpack, hlog, sameValue_of_scale (t := -52) (by omega) (by omega) ?_⟩
  have hsplit : (((10 ^ k.val).log2 : Int) - 52 - -52).toNat = (10 ^ k.val).log2 := by omega
  rw [hsplit, ← hscale]
  rfl

/-- The quotient of what stands for a whole number by what stands for a power of
ten, where a decimal with a negative exponent stands for a double. -/
theorem Represents.div {n k : Nat} {m₁ m₂ : Nat} {e₁ e₂ : Int} {h₁ : 0 < m₁} {h₂ : 0 < m₂}
    (h : Represents ⟨n, -k⟩ m e) (hc : Canonical m e) (hn : SameValue n 0 m₁ e₁)
    (hk : SameValue (10 ^ k) 0 m₂ e₂) :
    UnpackedFloat.div Format.binary64 (.finite .positive m₁ e₁ h₁) (.finite .positive m₂ e₂ h₂) =
      .finite .positive m e hc.pos := by
  have hvalue : SameValue n 0 (m * 10 ^ k) e := by
    have hexponents : (-(k : Int)).toNat = 0 ∧ (- -(k : Int)).toNat = k := by omega
    simpa only [Represents, hexponents.1, hexponents.2, Nat.pow_zero, Nat.mul_one] using h
  -- the number is the double times the power of ten, so the quotient is the double
  have hproduct := hk.mul (fun _ _ _ => rfl : SameValue m e m e)
  rw [Nat.mul_comm (10 ^ k), Int.zero_add] at hproduct
  exact div_of_sameValue hc (hn.symm.trans (hvalue.trans hproduct))

/-- And the product, where one with another exponent does. -/
theorem Represents.mul {n k : Nat} {m₁ m₂ : Nat} {e₁ e₂ : Int} (h₁ : 0 < m₁) (h₂ : 0 < m₂)
    (h : Represents ⟨n, k⟩ m e) (hc : Canonical m e) (hn : SameValue n 0 m₁ e₁)
    (hk : SameValue (10 ^ k) 0 m₂ e₂) (hlong : 52 ≤ m₁.log2 ∨ 52 ≤ m₂.log2) :
    UnpackedFloat.mul Format.binary64 (.finite .positive m₁ e₁ h₁) (.finite .positive m₂ e₂ h₂) =
      .finite .positive m e hc.pos := by
  have hvalue : SameValue (n * 10 ^ k) 0 m e := by
    have hexponents : (k : Int).toNat = k ∧ (-(k : Int)).toNat = 0 := by omega
    simpa only [Represents, hexponents.1, hexponents.2, Nat.pow_zero, Nat.mul_one] using h
  have hproduct := hn.mul hk
  rw [Int.add_zero] at hproduct
  have hlog := log2_le_log2_mul h₁ h₂
  exact mul_of_sameValue hc (by omega) (hproduct.symm.trans hvalue)

/-- The size of a decimal that stands for a double. -/
theorem Represents.size {n : Nat} {x : Int} (h : Represents ⟨n, x⟩ m e) (hc : Canonical m e)
    (he : e ≤ 971) :
    (0 ≤ x → (n.log2 : Int) + 3 * x ≤ 1023) ∧ (x < 0 → -1074 ≤ (n.log2 : Int) + 3 * x) := by
  have hn : 0 < n := h.significand_pos hc.pos
  have hlog := h.log2 (Nat.mul_pos hc.pos (Nat.pow_pos (by decide)))
  have hupper := (Nat.log2_lt (k := 53) hc.pos.ne').mpr hc.lt
  have hn' := log2_add_le_log2_mul hn x.toNat
  have hm' := log2_add_le_log2_mul hc.pos (-x).toNat
  have hleast := hc.least
  simp only at hlog
  constructor
  · intro hx
    have hnegative : (-x).toNat = 0 := by omega
    rw [hnegative, Nat.pow_zero, Nat.mul_one] at hlog
    omega
  · intro hx
    have hpositive : x.toNat = 0 := by omega
    rw [hpositive, Nat.pow_zero, Nat.mul_one] at hlog
    omega

/-- A decimal with few digits and a small exponent is read with one operation on
doubles. -/
theorem unpack_ofScientific_short {n : Nat} {x : Int} (hc : Canonical m e) (he : e ≤ 971)
    (h : Represents ⟨n, x⟩ m e) (hn : n < 2 ^ 53) (hx : x.natAbs ≤ 22) :
    (Float.ofScientific n (x < 0) x.natAbs).toModel.unpack = .finite .positive m e hc.pos := by
  obtain ⟨m₁, e₁, hc₁, hunpack₁, hsame₁⟩ := exists_unpack_toFloat (h.significand_pos hc.pos) hn
  obtain ⟨m₂, e₂, h₂, hunpack₂, hlong, hsame₂⟩ := exists_unpack_powerOfTen ⟨x.natAbs, by omega⟩
  rw [Float.ofScientific, dif_pos ⟨hn, hx⟩]
  by_cases hneg : x < 0
  · have hx' : x = -(x.natAbs : Int) := by omega
    rw [hx'] at h
    simp only [hneg, decide_true, if_true]
    change (Float.Model.pack (UnpackedFloat.div Format.binary64 n.toUInt64.toFloat.toModel.unpack
      (powerOfTen ⟨x.natAbs, by omega⟩).toModel.unpack)).unpack = _
    rw [hunpack₁, hunpack₂, h.div hc hsame₁ hsame₂, unpack_pack hc, if_pos he]
  · have hx' : x = (x.natAbs : Int) := by omega
    rw [hx'] at h
    simp only [hneg, decide_false, Bool.false_eq_true, if_false]
    change (Float.Model.pack (UnpackedFloat.mul Format.binary64 n.toUInt64.toFloat.toModel.unpack
      (powerOfTen ⟨x.natAbs, by omega⟩).toModel.unpack)).unpack = _
    rw [hunpack₁, hunpack₂, h.mul hc₁.pos h₂ hc hsame₁ hsame₂ (.inr hlong), unpack_pack hc,
      if_pos he]

/-- Any other is read with one rounding. -/
theorem unpack_ofScientific_long {n : Nat} {x : Int} (hc : Canonical m e) (he : e ≤ 971)
    (h : Represents ⟨n, x⟩ m e) : (Float.Model.ofScientific n x).unpack =
      .finite .positive m e hc.pos := by
  have hn : 0 < n := h.significand_pos hc.pos
  obtain ⟨hlarge, hsmall⟩ := h.size hc he
  have hbits : (2 : Int) ^ Format.binary64.exponentBits = 2048 := rfl
  rw [Float.Model.ofScientific, UnpackedFloat.ofScientific, dif_neg hn.ne', hbits,
    if_neg (by omega), if_neg (by omega)]
  split
  · next hx =>
    have hx' : x = (x.toNat : Int) := by omega
    have hshift : n <<< Format.binary64.mantissaBits = n * 2 ^ 53 := Nat.shiftLeft_eq n 53
    have hlong : 52 ≤ (n * 2 ^ 53).log2 := by
      rw [log2_mul_two_pow hn]
      omega
    have hsame : SameValue n 0 (n * 2 ^ 53) (-53) := by
      refine sameValue_of_scale (t := -53) (by omega) (by omega) ?_
      rw [Int.sub_self, Int.toNat_zero, Nat.pow_zero, Nat.mul_one]
      rfl
    rw [hx'] at h
    have hn' : 0 < n * 2 ^ 53 := by omega
    have hten : 0 < 10 ^ x.toNat := Nat.pow_pos (by decide)
    have hproduct := h.mul hn' hten hc hsame (fun _ _ _ => rfl) (.inl hlong)
    simp only [hshift]
    change (Float.Model.pack (UnpackedFloat.mul Format.binary64
      (.finite .positive (n * 2 ^ 53) (-53) _) (.finite .positive (10 ^ x.toNat) 0 _))).unpack = _
    rw [hproduct, unpack_pack hc, if_pos he]
  · next hx =>
    have hx' : x = -((-x).toNat : Int) := by omega
    rw [hx'] at h
    rw [h.div hc (fun _ _ _ => rfl) (fun _ _ _ => rfl), unpack_pack hc, if_pos he]

/-- **A decimal that stands for a double reads as it.** -/
theorem toFloat_of_represents (hc : Canonical m e) (he : e ≤ 971) (h : d.Represents m e) :
    d.toFloat.toModel.unpack = .finite .positive m e hc.pos := by
  have hnormal := represents_normalize h hc.pos
  have hpos := hnormal.significand_pos hc.pos
  rw [toFloat]
  generalize d.normalize = n at hnormal hpos
  obtain ⟨hlarge, hsmall⟩ := Represents.size hnormal hc he
  rw [if_neg hpos.ne', roundPositive, if_neg (by omega), if_neg (by omega)]
  -- few digits and a small exponent go through two doubles, all else through the model
  by_cases hshort : n.significand < 2 ^ 53 ∧ n.exponent.natAbs ≤ 22
  · exact unpack_ofScientific_short hc he hnormal hshort.1 hshort.2
  · have hmodel : (if n.exponent < 0 then Int.negOfNat n.exponent.natAbs
        else Int.ofNat n.exponent.natAbs) = n.exponent := by
      rw [Int.negOfNat_eq, Int.ofNat_eq_natCast]
      split <;> omega
    rw [Float.ofScientific, dif_neg hshort]
    simp only [decide_eq_true_eq, hmodel]
    exact unpack_ofScientific_long hc he hnormal

end Decimal

namespace Number

variable {v : Float} {m : Nat} {e : Int} {hm : 0 < m}

/-- **Every finite double above zero is a decimal,** which reads as it. -/
theorem toFloat_exact (h : v.toModel.unpack = .finite .positive m e hm) :
    (magnitude v).exact.toFloat = v := by
  obtain ⟨hc, he⟩ := canonical_of_unpack h
  have hrepresents : (magnitude v).exact.Represents m e := by
    rw [magnitude, parts_of_unpack h]
    simp only
    split
    · next hwhole =>
      have hexact : Magnitude.exact ⟨m * Nat.pow 2 e.toNat, 1⟩ = ⟨m * 2 ^ e.toNat, 0⟩ :=
        congrArg (Decimal.mk · 0) (Nat.mul_one _)
      rw [hexact]
      refine sameValue_of_scale (t := 0) (Int.le_refl 0) hwhole ?_
      simp
    · next hfraction =>
      obtain ⟨k, rfl⟩ : ∃ k : Nat, e = -k := ⟨(-e).toNat, by omega⟩
      rw [Int.neg_neg, Int.toNat_natCast]
      have hplaces : (Nat.pow 2 k).log2 = k := Nat.log2_two_pow
      have hexact : Magnitude.exact ⟨m, Nat.pow 2 k⟩ = ⟨m * 5 ^ k, -(k : Int)⟩ := by
        rw [Magnitude.exact]
        simp only [hplaces]
        rfl
      rw [hexact]
      -- as many places as there are halvings: ten is two times five
      refine sameValue_of_scale (t := -(k : Int)) (by omega) (Int.le_refl _) ?_
      have hscales : (-(k : Int)).toNat = 0 ∧ (0 - -(k : Int)).toNat = k := by omega
      simp only [Int.neg_neg, Int.toNat_natCast, Int.sub_self, Int.toNat_zero, hscales.1, hscales.2,
        Nat.pow_zero, Nat.mul_one]
      rw [Nat.mul_assoc, ← Nat.mul_pow]
  refine eq_of_unpack_eq ?_
  rw [Decimal.toFloat_of_represents hc he hrepresents, h]

end Number

end Reckon
