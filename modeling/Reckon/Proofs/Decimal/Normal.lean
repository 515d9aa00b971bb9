import Mathlib
import Reckon.Decimal.Basic
/-!
# Decimal — one normal form for a number

Zeros at the end of the digits and steps of the exponent make no difference to
the normal form (`normalize_mul_pow`), which is its own normal form
(`normalize_normalize`). So a decimal and its normal form are read as the same
double (`toFloat_normalize`).
-/

namespace Reckon

namespace Decimal

variable {m : Nat}

/-- A digit less is a bit less at least. -/
theorem log2_div_ten_lt (hm : 0 < m) (hten : m % 10 = 0) : (m / 10).log2 < m.log2 := by
  have hpos : m / 10 ≠ 0 := by omega
  have hlower := Nat.log2_self_le hpos
  refine (Nat.le_log2 (Nat.ne_of_gt hm)).mpr ?_
  rw [Nat.pow_succ]
  omega

/-- Once the limit allows for all zeros it makes no difference. -/
theorem stripZeros_of_le : ∀ {limit limit' m : Nat} {e : Int}, 0 < m → m.log2 ≤ limit →
    m.log2 ≤ limit' → stripZeros limit m e = stripZeros limit' m e
  | 0, limit', m, e, hm, h, _ | limit', 0, m, e, hm, _, h => by
    have hone : m = 1 := by
      have := (Nat.log2_lt (k := 1) (Nat.ne_of_gt hm)).mp (by omega)
      omega
    subst hone
    cases limit' <;> rfl
  | limit + 1, limit' + 1, m, e, hm, h, h' => by
    rw [stripZeros, stripZeros]
    split
    · next hten =>
      have hlog := log2_div_ten_lt hm hten
      exact stripZeros_of_le (by omega) (by omega) (by omega)
    · rfl

theorem normalize_zero (e : Int) : normalize ⟨0, e⟩ = ⟨0, 0⟩ := rfl

/-- **A zero at the end stands for a step of the exponent.** -/
theorem normalize_mul_ten (m : Nat) (e : Int) : normalize ⟨m * 10, e⟩ = normalize ⟨m, e + 1⟩ := by
  rcases Nat.eq_zero_or_pos m with rfl | hm
  · rw [Nat.zero_mul, normalize_zero, normalize_zero]
  have hten : m * 10 % 10 = 0 := Nat.mul_mod_left m 10
  have hdiv : m * 10 / 10 = m := Nat.mul_div_cancel m (by decide)
  have hlog := log2_div_ten_lt (by omega) hten
  rw [hdiv] at hlog
  obtain ⟨limit, hlimit⟩ : ∃ limit, (m * 10).log2 = limit + 1 := ⟨(m * 10).log2 - 1, by omega⟩
  rw [normalize, normalize, if_neg (show m * 10 ≠ 0 by omega), if_neg (Nat.ne_of_gt hm)]
  simp only
  rw [hlimit, stripZeros, if_pos hten, hdiv]
  exact stripZeros_of_le hm (by omega) (Nat.le_refl _)

/-- So do any number of them. -/
theorem normalize_mul_pow (m k : Nat) (e : Int) :
    normalize ⟨m * 10 ^ k, e - k⟩ = normalize ⟨m, e⟩ := by
  induction k generalizing e with
  | zero => rw [Nat.pow_zero, Nat.mul_one, Int.natCast_zero, Int.sub_zero]
  | succ k ih =>
    rw [Nat.pow_succ, ← Nat.mul_assoc, normalize_mul_ten]
    have hexponent : e - (k + 1 : Nat) + 1 = e - k := by omega
    rw [hexponent, ih]

/-- Taking zeros off the end leaves the normal form. -/
theorem normalize_stripZeros (limit m : Nat) (e : Int) :
    (stripZeros limit m e).normalize = normalize ⟨m, e⟩ := by
  induction limit generalizing m e with
  | zero => rfl
  | succ limit ih =>
    rw [stripZeros]
    split
    · next hten =>
      rw [ih, ← normalize_mul_ten, Nat.div_mul_cancel (Nat.dvd_of_mod_eq_zero hten)]
    · rfl

/-- **The normal form is its own.** -/
theorem normalize_normalize (d : Decimal) : d.normalize.normalize = d.normalize := by
  obtain ⟨m, e⟩ := d
  rcases Nat.eq_zero_or_pos m with rfl | hm
  · rfl
  · have hstrip : normalize ⟨m, e⟩ = stripZeros m.log2 m e := if_neg (Nat.ne_of_gt hm)
    rw [hstrip, normalize_stripZeros, hstrip]

/-- A double depends on the normal form only. -/
theorem toFloat_congr {d d' : Decimal} (h : d.normalize = d'.normalize) :
    d.toFloat = d'.toFloat := by
  rw [toFloat, toFloat, h]

theorem toFloat_normalize (d : Decimal) : d.normalize.toFloat = d.toFloat :=
  toFloat_congr d.normalize_normalize

end Decimal

end Reckon
