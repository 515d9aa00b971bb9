import Mathlib
/-!
# Number — rounding a rational number

`nearest` rounds to 53 bits, an exact half to the even mantissa, with exponents from -1074 on and
no greatest one. It moves no number that has 53 bits (`nearest_of_representable`) and keeps the
order (`nearest_mono`), so that what lies between two such numbers is rounded to between them.
-/

namespace Reckon

namespace Number

variable {p q x : ℚ} {m n k : ℕ} {e t : ℤ}

theorem two_zpow_pos (e : ℤ) : (0 : ℚ) < 2 ^ e :=
  zpow_pos two_pos e

/-! ## Whole numbers -/

/-- The nearest whole number, the even one of two that are as near. -/
def toEven (q : ℚ) : ℕ :=
  if q < ⌊q⌋₊ + 1 / 2 then ⌊q⌋₊
  else if q = ⌊q⌋₊ + 1 / 2 then ⌊q⌋₊ + ⌊q⌋₊ % 2
  else ⌊q⌋₊ + 1

theorem floor_le_toEven (q : ℚ) : ⌊q⌋₊ ≤ toEven q := by
  rw [toEven]
  split_ifs <;> omega

theorem toEven_le (q : ℚ) : toEven q ≤ ⌊q⌋₊ + 1 := by
  rw [toEven]
  split_ifs <;> omega

theorem toEven_natCast (n : ℕ) : toEven n = n := by
  rw [toEven, Nat.floor_natCast, if_pos (by linarith)]

theorem toEven_mono : Monotone toEven := by
  intro p q h
  rcases (Nat.floor_le_floor h).lt_or_eq with hlt | heq
  · calc toEven p ≤ ⌊p⌋₊ + 1 := toEven_le p
      _ ≤ ⌊q⌋₊ := hlt
      _ ≤ toEven q := floor_le_toEven q
  · rw [toEven, toEven, heq]
    split_ifs <;> grind

/-! ## Exponents -/

/-- The exponent at which a number is rounded. -/
def grid (q : ℚ) : ℤ :=
  max (Int.log 2 |q| - 52) (-1074)

theorem least_le_grid (q : ℚ) : -1074 ≤ grid q :=
  le_max_right _ _

theorem two_zpow_add (n : ℕ) (e : ℤ) : (2 : ℚ) ^ (n + e) = 2 ^ n * 2 ^ e := by
  rw [zpow_add₀ two_ne_zero, zpow_natCast]

section Positive

variable (hq : 0 < q)

include hq

/-- It is at most this one where the number has no more bits there. -/
theorem grid_le_iff (ht : -1074 ≤ t) : grid q ≤ t ↔ q < 2 ^ 53 * 2 ^ t := by
  rw [← two_zpow_add, grid, abs_of_pos hq, max_le_iff, ← Nat.cast_ofNat (R := ℚ),
    Int.lt_zpow_iff_log_lt one_lt_two hq]
  omega

theorem lt_of_grid : q < 2 ^ 53 * 2 ^ grid q :=
  (grid_le_iff hq (least_le_grid q)).mp le_rfl

/-- All bits are in use, unless it is the least one. -/
theorem full_of_grid (h : -1074 < grid q) : 2 ^ 52 * 2 ^ grid q ≤ q := by
  by_contra hlt
  have hhalf : q < 2 ^ 53 * 2 ^ (grid q - 1) := by
    calc q < 2 ^ 52 * 2 ^ grid q := not_le.mp hlt
      _ = 2 ^ 53 * 2 ^ (grid q - 1) := by rw [zpow_sub_one₀ two_ne_zero]; ring
  have := (grid_le_iff hq (by omega)).mpr hhalf
  omega

theorem grid_eq_of (ht : -1074 ≤ t) (hlt : q < 2 ^ 53 * 2 ^ t)
    (hfull : -1074 < t → 2 ^ 52 * 2 ^ t ≤ q) : grid q = t := by
  refine le_antisymm ((grid_le_iff hq ht).mpr hlt) (not_lt.mp fun hgrid => ?_)
  have hleast := least_le_grid q
  have hup : q < 2 ^ 53 * 2 ^ (t - 1) :=
    (grid_le_iff hq (by omega)).mp (by omega)
  have hdown := hfull (by omega)
  have hscale : (2 : ℚ) ^ 53 * 2 ^ (t - 1) = 2 ^ 52 * 2 ^ t := by
    rw [zpow_sub_one₀ two_ne_zero]; ring
  linarith

/-- The mantissa that it is rounded to, at most one bit too long. -/
theorem toEven_div_grid_le : toEven (q / 2 ^ grid q) ≤ 2 ^ 53 := by
  rw [← toEven_natCast (2 ^ 53)]
  refine toEven_mono ((div_le_iff₀ (two_zpow_pos _)).mpr ?_)
  exact_mod_cast (lt_of_grid hq).le

theorem le_toEven_div_grid (h : -1074 < grid q) : 2 ^ 52 ≤ toEven (q / 2 ^ grid q) := by
  rw [← toEven_natCast (2 ^ 52)]
  refine toEven_mono ((le_div_iff₀ (two_zpow_pos _)).mpr ?_)
  exact_mod_cast full_of_grid hq h

theorem grid_mono (h : q ≤ x) : grid q ≤ grid x :=
  (grid_le_iff hq (least_le_grid x)).mpr (h.trans_lt (lt_of_grid (hq.trans_le h)))

end Positive

/-! ## Rational numbers -/

/-- The nearest double of a number that is not negative, were there no greatest one. -/
def nearestAbs (q : ℚ) : ℚ :=
  toEven (q / 2 ^ grid q) * 2 ^ grid q

/-- **The nearest double,** were there no greatest one. -/
def nearest (q : ℚ) : ℚ :=
  if q < 0 then -nearestAbs (-q) else nearestAbs q

/-- **Numbers of 53 bits.** -/
def Representable (q : ℚ) : Prop :=
  ∃ (k : ℕ) (t : ℤ), k < 2 ^ 53 ∧ -1074 ≤ t ∧ |q| = k * 2 ^ t

theorem Representable.neg (h : Representable q) : Representable (-q) := by
  rwa [Representable, abs_neg]

theorem Representable.two_mul (h : Representable q) : Representable (2 * q) := by
  obtain ⟨k, t, hk, ht, habs⟩ := h
  refine ⟨k, t + 1, hk, by omega, ?_⟩
  rw [abs_mul, habs, abs_two, zpow_add_one₀ two_ne_zero]
  ring

theorem nearestAbs_zero : nearestAbs 0 = 0 := by
  have hzero : toEven 0 = 0 := by exact_mod_cast toEven_natCast 0
  rw [nearestAbs, zero_div, hzero, Nat.cast_zero, zero_mul]

theorem nearestAbs_nonneg (q : ℚ) : 0 ≤ nearestAbs q :=
  mul_nonneg (Nat.cast_nonneg _) (two_zpow_pos _).le

theorem nearest_zero : nearest 0 = 0 := by
  rw [nearest, if_neg (lt_irrefl 0), nearestAbs_zero]

theorem nearest_of_nonneg (hq : 0 ≤ q) : nearest q = nearestAbs q :=
  if_neg hq.not_gt

theorem nearest_nonneg (hq : 0 ≤ q) : 0 ≤ nearest q :=
  (nearest_of_nonneg hq).symm ▸ nearestAbs_nonneg q

theorem nearest_neg (q : ℚ) : nearest (-q) = -nearest q := by
  rcases lt_trichotomy q 0 with h | rfl | h
  · rw [nearest_of_nonneg (neg_nonneg.mpr h.le), nearest, if_pos h, neg_neg]
  · rw [neg_zero, nearest_zero, neg_zero]
  · rw [nearest, if_pos (neg_lt_zero.mpr h), neg_neg, nearest_of_nonneg h.le]

theorem nearestAbs_mono (hp : 0 ≤ p) (h : p ≤ q) : nearestAbs p ≤ nearestAbs q := by
  obtain rfl | hp := hp.eq_or_lt
  · rw [nearestAbs_zero]
    exact nearestAbs_nonneg q
  have hq := hp.trans_le h
  rcases (grid_mono hp h).eq_or_lt with heq | hlt
  · rw [nearestAbs, nearestAbs, ← heq]
    have hscaled := div_le_div_of_nonneg_right h (two_zpow_pos (grid p)).le
    exact mul_le_mul_of_nonneg_right (Nat.cast_le.mpr (toEven_mono hscaled)) (two_zpow_pos _).le
  -- in another binade: the one is rounded to at most its end, the other to at least its start
  · have hup := toEven_div_grid_le hp
    have hdown := le_toEven_div_grid hq ((least_le_grid p).trans_lt hlt)
    calc nearestAbs p ≤ 2 ^ 53 * 2 ^ grid p :=
          mul_le_mul_of_nonneg_right (by exact_mod_cast hup) (two_zpow_pos _).le
      _ = 2 ^ 52 * 2 ^ (grid p + 1) := by rw [zpow_add_one₀ two_ne_zero]; ring
      _ ≤ 2 ^ 52 * 2 ^ grid q :=
          mul_le_mul_of_nonneg_left (zpow_le_zpow_right₀ one_le_two hlt) (by positivity)
      _ ≤ nearestAbs q :=
          mul_le_mul_of_nonneg_right (by exact_mod_cast hdown) (two_zpow_pos _).le

/-- **Rounding keeps the order.** -/
theorem nearest_mono : Monotone nearest := by
  refine monotone_of_odd_of_monotoneOn_nonneg nearest_neg fun p hp q hq h => ?_
  rw [nearest_of_nonneg hp, nearest_of_nonneg hq]
  exact nearestAbs_mono hp h

/-- A number that is whole at the exponent at which it is rounded is not moved. -/
theorem nearestAbs_of_eq (hle : grid q ≤ t) (h : q = k * 2 ^ t) : nearestAbs q = q := by
  obtain ⟨j, rfl⟩ := Int.le.dest hle
  have hwhole : q / 2 ^ grid q = ((k * 2 ^ j : ℕ) : ℚ) := by
    rw [div_eq_iff (two_zpow_pos _).ne', add_comm, two_zpow_add, ← mul_assoc] at *
    exact_mod_cast h
  rw [nearestAbs, hwhole, toEven_natCast, ← hwhole, div_mul_cancel₀ _ (two_zpow_pos _).ne']

/-- **A number of 53 bits is not moved.** -/
theorem nearest_of_representable (h : Representable q) : nearest q = q := by
  have habs : nearestAbs |q| = |q| := by
    obtain ⟨k, t, hk, ht, habs⟩ := h
    obtain hzero | hpos := (abs_nonneg q).eq_or_lt
    · rw [← hzero, nearestAbs_zero]
    · refine nearestAbs_of_eq ((grid_le_iff hpos ht).mpr ?_) habs
      rw [habs]
      exact mul_lt_mul_of_pos_right (by exact_mod_cast hk) (two_zpow_pos t)
  rcases lt_or_ge q 0 with hq | hq
  · rw [abs_of_neg hq] at habs
    rw [nearest, if_pos hq, habs, neg_neg]
  · rw [abs_of_nonneg hq] at habs
    rw [nearest_of_nonneg hq, habs]

theorem le_nearest (hx : Representable x) (h : x ≤ q) : x ≤ nearest q := by
  calc x = nearest x := (nearest_of_representable hx).symm
    _ ≤ nearest q := nearest_mono h

theorem nearest_le (hx : Representable x) (h : q ≤ x) : nearest q ≤ x := by
  calc nearest q ≤ nearest x := nearest_mono h
    _ = x := nearest_of_representable hx

/-- A number lies between two mantissas at the exponent at which it is rounded, and is rounded to
one of them. -/
theorem exists_mantissa_le (hq : 0 < q) : ∃ n : ℕ, n < 2 ^ 53 ∧ (-1074 < grid q → 2 ^ 52 ≤ n) ∧
    n * 2 ^ grid q ≤ q ∧ nearest q ≤ (n + 1) * 2 ^ grid q := by
  have hunit := two_zpow_pos (grid q)
  have hscaled : 0 ≤ q / 2 ^ grid q := (div_pos hq hunit).le
  refine ⟨⌊q / 2 ^ grid q⌋₊, ?_, fun hleast => ?_, ?_, ?_⟩
  · rw [Nat.floor_lt hscaled, div_lt_iff₀ hunit]
    exact_mod_cast lt_of_grid hq
  · rw [Nat.le_floor_iff hscaled, le_div_iff₀ hunit]
    exact_mod_cast full_of_grid hq hleast
  · rw [← le_div_iff₀ hunit]
    exact Nat.floor_le hscaled
  · rw [nearest_of_nonneg hq.le, nearestAbs]
    refine mul_le_mul_of_nonneg_right ?_ hunit.le
    exact_mod_cast toEven_le (q / 2 ^ grid q)

/-! ## The least unit -/

/-- A number that is whole at the least exponent of the doubles. -/
def OnLeastGrid (q : ℚ) : Prop :=
  ∃ n : ℤ, q = n * 2 ^ (-1074 : ℤ)

namespace OnLeastGrid

theorem neg (h : OnLeastGrid q) : OnLeastGrid (-q) := by
  obtain ⟨n, rfl⟩ := h
  exact ⟨-n, by rw [Int.cast_neg, neg_mul]⟩

theorem sub (h : OnLeastGrid p) (h' : OnLeastGrid q) : OnLeastGrid (p - q) := by
  obtain ⟨n, rfl⟩ := h
  obtain ⟨n', rfl⟩ := h'
  exact ⟨n - n', by rw [Int.cast_sub, sub_mul]⟩

/-- Below the first full mantissa it has 53 bits. -/
theorem representable (h : OnLeastGrid q) (hlt : |q| < 2 ^ 53 * 2 ^ (-1074 : ℤ)) :
    Representable q := by
  obtain ⟨n, rfl⟩ := h
  have habs : |(n : ℚ) * 2 ^ (-1074 : ℤ)| = n.natAbs * 2 ^ (-1074 : ℤ) := by
    rw [abs_mul, abs_of_pos (two_zpow_pos _), Nat.cast_natAbs, Int.cast_abs]
  rw [habs] at hlt
  have hn := lt_of_mul_lt_mul_right hlt (two_zpow_pos _).le
  exact ⟨n.natAbs, -1074, by exact_mod_cast hn, le_rfl, habs⟩

end OnLeastGrid

/-- No such number is rounded to zero. -/
theorem nearest_ne_zero (h : OnLeastGrid q) (hq : q ≠ 0) : nearest q ≠ 0 := by
  obtain ⟨n, rfl⟩ := h
  have hpos := two_zpow_pos (-1074)
  have hunit : Representable (2 ^ (-1074 : ℤ)) :=
    ⟨1, -1074, by norm_num, le_rfl, by rw [abs_of_pos hpos, Nat.cast_one, one_mul]⟩
  rcases lt_trichotomy n 0 with hn | rfl | hn
  · have hle : (n : ℚ) ≤ -1 := by exact_mod_cast (by omega : n ≤ -1)
    have hbelow := nearest_le hunit.neg
      ((mul_le_mul_of_nonneg_right hle hpos.le).trans_eq (neg_one_mul _))
    exact (hbelow.trans_lt (neg_lt_zero.mpr hpos)).ne
  · exact absurd (by rw [Int.cast_zero, zero_mul]) hq
  · have hle : (1 : ℚ) ≤ n := by exact_mod_cast (by omega : 1 ≤ n)
    have habove := le_nearest hunit
      ((one_mul _).symm.trans_le (mul_le_mul_of_nonneg_right hle hpos.le))
    exact (hpos.trans_le habove).ne'

end Number

end Reckon
