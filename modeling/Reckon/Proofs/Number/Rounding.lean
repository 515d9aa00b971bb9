import Reckon.Proofs.Number.Unpacked
/-!
# Number — mantissas and exponents, rounded

Rounding shifts a mantissa to the exponent of its number, and leaves it alone
where the number has a canonical form (`round_of_sameValue`). What is rounded
otherwise has a canonical form again (`roundWithAccuracy_of_shift`), unless it
is rounded to zero.
-/

namespace Reckon

namespace Number

open Float.Model (UnpackedFloat Format)
open Float.Model.UnpackedFloat

/-- **Two mantissas and exponents stand for the same number:** they agree at
every scale at which both are whole. -/
def SameValue (m : Nat) (e : Int) (m' : Nat) (e' : Int) : Prop :=
  ∀ t, t ≤ e → t ≤ e' → m * 2 ^ (e - t).toNat = m' * 2 ^ (e' - t).toNat

variable {m m' n : Nat} {e e' t : Int} {s : Sign}

/-- It is enough that they agree at one scale. -/
theorem sameValue_of_scale (he : t ≤ e) (he' : t ≤ e')
    (h : m * 2 ^ (e - t).toNat = m' * 2 ^ (e' - t).toNat) : SameValue m e m' e' := by
  intro u hu hu'
  rcases Int.le_total u t with hle | hle
  · have hsplit : (e - u).toNat = (e - t).toNat + (t - u).toNat := by omega
    have hsplit' : (e' - u).toNat = (e' - t).toNat + (t - u).toNat := by omega
    rw [hsplit, hsplit', Nat.pow_add, Nat.pow_add, ← Nat.mul_assoc, ← Nat.mul_assoc, h]
  · have hsplit : (e - t).toNat = (e - u).toNat + (u - t).toNat := by omega
    have hsplit' : (e' - t).toNat = (e' - u).toNat + (u - t).toNat := by omega
    rw [hsplit, hsplit', Nat.pow_add, Nat.pow_add, ← Nat.mul_assoc, ← Nat.mul_assoc] at h
    exact Nat.eq_of_mul_eq_mul_right (Nat.two_pow_pos _) h

theorem SameValue.symm (h : SameValue m e m' e') : SameValue m' e' m e :=
  fun t ht ht' => (h t ht' ht).symm

theorem SameValue.trans {n : Nat} {i : Int} (h : SameValue m e m' e') (h' : SameValue m' e' n i) :
    SameValue m e n i := by
  have hscale := h (min e' (min e i)) (by omega) (by omega)
  have hscale' := h' (min e' (min e i)) (by omega) (by omega)
  exact sameValue_of_scale (by omega) (by omega) (hscale.trans hscale')

/-- Products of equal numbers are equal. -/
theorem SameValue.mul {n n' : Nat} {i i' : Int} (h : SameValue m e m' e')
    (h' : SameValue n i n' i') : SameValue (m * n) (e + i) (m' * n') (e' + i') := by
  have hscale := h (min e e') (by omega) (by omega)
  have hscale' := h' (min i i') (by omega) (by omega)
  refine sameValue_of_scale (t := min e e' + min i i') (by omega) (by omega) ?_
  have hsplit : (e + i - (min e e' + min i i')).toNat =
      (e - min e e').toNat + (i - min i i').toNat := by omega
  have hsplit' : (e' + i' - (min e e' + min i i')).toNat =
      (e' - min e e').toNat + (i' - min i i').toNat := by omega
  rw [hsplit, hsplit', Nat.pow_add, Nat.pow_add, Nat.mul_mul_mul_comm, hscale, hscale',
    Nat.mul_mul_mul_comm]

/-! ## The exponent of a rounded number -/

theorem log2_mul_two_pow (hm : 0 < m) (k : Nat) : (m * 2 ^ k).log2 = m.log2 + k := by
  induction k with
  | zero => rw [Nat.pow_zero, Nat.mul_one, Nat.add_zero]
  | succ k ih =>
    have hpos : m * 2 ^ k ≠ 0 := (Nat.mul_pos hm (Nat.two_pow_pos k)).ne'
    have hdouble : m * 2 ^ (k + 1) = 2 * (m * 2 ^ k) := by
      rw [Nat.pow_succ, ← Nat.mul_assoc, Nat.mul_comm]
    rw [hdouble, Nat.log2_two_mul hpos, ih]
    rfl

/-- The first bit of a number is at the same place in every form. -/
theorem SameValue.log2 (h : SameValue n e' m e) (hm : 0 < m) :
    (n.log2 : Int) + e' = m.log2 + e := by
  have hscale := h (min e' e) (by omega) (by omega)
  have hn : 0 < n := by
    rcases Nat.eq_zero_or_pos n with rfl | hn
    · have := Nat.mul_pos hm (Nat.two_pow_pos (e - min e' e).toNat)
      omega
    · exact hn
  have hlog := congrArg Nat.log2 hscale
  rw [log2_mul_two_pow hn, log2_mul_two_pow hm] at hlog
  omega

/-- The exponent at which a number is rounded. -/
theorem targetExponent_eq (m : Nat) (e : Int) :
    Format.binary64.targetExponent (Float.Model.totalExponent m e) =
      max (m.log2 + e - 52) (-1074) := by
  have hbits : (Format.binary64.mantissaBits : Int) = 53 := rfl
  have hleast : Format.binary64.minExponent = -1074 := rfl
  rw [Format.targetExponent, Float.Model.totalExponent, hbits, hleast]
  omega

/-- A canonical form is at the exponent at which its number is rounded. -/
theorem Canonical.target (hc : Canonical m e) : max ((m.log2 : Int) + e - 52) (-1074) = e := by
  obtain ⟨hpos, hlt, hleast, hnormal⟩ := hc
  have hupper := (Nat.log2_lt (k := 53) hpos.ne').mpr hlt
  have hlower := Nat.le_log2 (k := 52) hpos.ne'
  omega

/-! ## Shifting -/

/-- Bits that are zero are shifted out without a trace. -/
theorem shiftRight_exact (m k : Nat) :
    ((⟨m * 2 ^ k, false, false⟩ : ExtendedMantissa) >>> k) = ⟨m, false, false⟩ := by
  change k.repeat ExtendedMantissa.shiftRightOne _ = _
  -- on the shift: each step drops one zero bit
  induction k generalizing m with
  | zero =>
    rw [Nat.pow_zero, Nat.mul_one]
    rfl
  | succ k ih =>
    have hsplit : m * 2 ^ (k + 1) = m * 2 * 2 ^ k := by
      rw [Nat.pow_succ, Nat.mul_comm (2 ^ k), Nat.mul_assoc]
    rw [Nat.repeat, hsplit, ih, ExtendedMantissa.shiftRightOne]
    simp

/-- A mantissa at the exponent at which it is rounded is not shifted. -/
theorem shiftToTargetExponent_self (h : max ((m.log2 : Int) + e - 52) (-1074) ≤ e) :
    shiftToTargetExponent Format.binary64 m e .exact = (⟨m, false, false⟩, e) := by
  rw [shiftToTargetExponent, targetExponent_eq, shiftToExponent]
  simp only [Int.toNat_of_nonpos (Int.sub_nonpos_of_le h), Int.natCast_zero, Int.add_zero]
  rfl

/-- Rounding shifts to the exponent of the number, rounds the mantissa, and
shifts again where that has made it too long. -/
theorem roundWithAccuracy_eq {accuracy : Accuracy} {x y : ExtendedMantissa} {e₁ e₂ : Int}
    (hx : shiftToTargetExponent Format.binary64 m e accuracy = (x, e₁))
    (hy : shiftToTargetExponent Format.binary64 x.roundedMantissa e₁ .exact = (y, e₂))
    (hpos : 0 < y.mantissa) :
    roundWithAccuracy Format.binary64 s m e accuracy = .finite s y.mantissa e₂ hpos := by
  rw [roundWithAccuracy]
  simp only [hx, hy]
  rw [dif_neg hpos.ne']

/-! ## Exact numbers -/

/-- **A number with a canonical form is rounded to it.** -/
theorem roundWithAccuracy_of_sameValue (hc : Canonical m e) (he : e' ≤ e)
    (h : SameValue n e' m e) :
    roundWithAccuracy Format.binary64 s n e' .exact = .finite s m e hc.pos := by
  have hn := h e' (Int.le_refl e') he
  rw [Int.sub_self, Int.toNat_zero, Nat.pow_zero, Nat.mul_one] at hn
  have htarget : max ((n.log2 : Int) + e' - 52) (-1074) = e := by rw [h.log2 hc.pos, hc.target]
  have hshift : shiftToTargetExponent Format.binary64 n e' .exact = (⟨m, false, false⟩, e) := by
    rw [shiftToTargetExponent, targetExponent_eq, htarget, shiftToExponent, hn]
    have hsum : e' + ((e - e').toNat : Int) = e := by omega
    simp only [hsum]
    exact congrArg (·, e) (shiftRight_exact m (e - e').toNat)
  exact roundWithAccuracy_eq hshift (shiftToTargetExponent_self hc.target.le) hc.pos

/-- Also where its exponent has to come down first. -/
theorem round_of_sameValue (hc : Canonical m e) (h : SameValue n e' m e) :
    UnpackedFloat.round Format.binary64 s n e' = .finite s m e hc.pos := by
  have htarget : max ((n.log2 : Int) + e' - 52) (-1074) = e := by rw [h.log2 hc.pos, hc.target]
  rw [UnpackedFloat.round, targetExponent_eq, htarget, decreaseExponent]
  refine roundWithAccuracy_of_sameValue hc (by omega) ?_
  refine sameValue_of_scale (t := min e' e) (by omega) (by omega) ?_
  have hscale := h (min e' e) (by omega) (by omega)
  rw [Nat.shiftLeft_eq, Nat.mul_assoc, ← Nat.pow_add, ← hscale]
  congr 2
  omega

/-! ## Numbers that are not exact -/

/-- A mantissa that is rounded to nothing. -/
theorem roundWithAccuracy_eq_zero {accuracy : Accuracy} {x : ExtendedMantissa}
    (hshift : shiftToTargetExponent Format.binary64 m e accuracy = (x, t)) (ht : -1074 ≤ t)
    (hzero : x.roundedMantissa = 0) : roundWithAccuracy Format.binary64 s m e accuracy = .zero s := by
  have htarget : max (((0 : Nat).log2 : Int) + t - 52) (-1074) ≤ t := by
    rw [Nat.log2_zero]
    omega
  rw [roundWithAccuracy]
  simp only [hshift, hzero, shiftToTargetExponent_self htarget]
  rfl

/-- A mantissa of 53 bits, or the one after them all, is canonical after rounding: where that has
made a bit too many, the mantissa is a power of two. -/
theorem roundWithAccuracy_of_shift {accuracy : Accuracy} {x : ExtendedMantissa}
    (hshift : shiftToTargetExponent Format.binary64 m e accuracy = (x, t)) (ht : -1074 ≤ t)
    (hpos : 0 < x.roundedMantissa) (hle : x.roundedMantissa ≤ 2 ^ 53)
    (hfull : 2 ^ 52 ≤ x.roundedMantissa ∨ t = -1074) :
    ∃ m' e', ∃ hc : Canonical m' e', SameValue x.roundedMantissa t m' e' ∧
      roundWithAccuracy Format.binary64 s m e accuracy = .finite s m' e' hc.pos := by
  rcases hle.lt_or_eq with hlt | heq
  · have hc : Canonical x.roundedMantissa t := ⟨hpos, hlt, ht, hfull⟩
    exact ⟨_, t, hc, fun _ _ _ => rfl,
      roundWithAccuracy_eq hshift (shiftToTargetExponent_self hc.target.le) hc.pos⟩
  · have hpower : x.roundedMantissa = 2 ^ 52 * 2 ^ 1 := heq
    have hagain : shiftToTargetExponent Format.binary64 x.roundedMantissa t .exact =
        (⟨2 ^ 52, false, false⟩, t + 1) := by
      have htarget : max ((x.roundedMantissa.log2 : Int) + t - 52) (-1074) = t + 1 := by
        rw [hpower, log2_mul_two_pow (Nat.two_pow_pos 52), Nat.log2_two_pow]
        omega
      have hamount : (t + 1 - t).toNat = 1 := by omega
      rw [shiftToTargetExponent, targetExponent_eq, htarget, shiftToExponent, hpower]
      simp only [hamount]
      exact congrArg (·, t + 1) (shiftRight_exact (2 ^ 52) 1)
    have hc : Canonical (2 ^ 52) (t + 1) := ⟨by omega, by omega, by omega, .inl le_rfl⟩
    refine ⟨_, t + 1, hc, sameValue_of_scale (t := t) le_rfl (by omega) ?_,
      roundWithAccuracy_eq hshift hagain hc.pos⟩
    have hamount : (t + 1 - t).toNat = 1 := by omega
    rw [hpower, hamount, Int.sub_self, Int.toNat_zero, Nat.pow_zero, Nat.mul_one]

/-- A number with no more bits than a double has a canonical form. -/
theorem exists_canonical (hm : 0 < m) (he : -1074 ≤ e) (hlog : m.log2 ≤ 52) :
    ∃ m' e', Canonical m' e' ∧ SameValue m e m' e' := by
  -- the exponent that uses all bits, or the least one; the mantissa moves up to it
  obtain ⟨t, ht⟩ : ∃ t, max ((m.log2 : Int) + e - 52) (-1074) = t := ⟨_, rfl⟩
  have hpos : 0 < m * 2 ^ (e - t).toNat := Nat.mul_pos hm (Nat.two_pow_pos _)
  have hlog' : (m * 2 ^ (e - t).toNat).log2 = m.log2 + (e - t).toNat := log2_mul_two_pow hm _
  refine ⟨m * 2 ^ (e - t).toNat, t, ⟨hpos, ?_, by omega, ?_⟩, ?_⟩
  · rw [← Nat.log2_lt hpos.ne']
    omega
  · rw [← Nat.le_log2 hpos.ne']
    omega
  · refine sameValue_of_scale (t := t) (by omega) (Int.le_refl t) ?_
    rw [Int.sub_self, Int.toNat_zero, Nat.pow_zero, Nat.mul_one]

end Number

end Reckon
