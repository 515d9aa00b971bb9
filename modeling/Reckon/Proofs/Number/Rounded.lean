import Reckon.Proofs.Number.Greatest
import Reckon.Proofs.Number.Residual
/-!
# Number — arithmetic is exact arithmetic, rounded

The sum, the difference, the product and the quotient of finite doubles are the nearest doubles of
the exact ones (`isRounded_add` and the like). They are finite unless those are beyond the greatest
double, and what lies between two doubles is rounded to between them (`IsRounded.between`).
-/

namespace Reckon

namespace Number

open Float.Model (UnpackedFloat Format)
open Float.Model.UnpackedFloat

variable {m m' : Nat} {e e' t : Int} {s s' : Sign} {u u' : UnpackedFloat} {q : ℚ}
variable {v w x y : Float}

/-! ## The operations on what is unpacked -/

theorem roundsTo_zero (s : Sign) : RoundsTo (.zero s) 0 :=
  roundsTo_self (u := .zero s) trivial

theorem signed_neg (s : Sign) (q : ℚ) : signed (-s) q = -signed s q := by
  cases s with
  | positive => rfl
  | negative => exact (neg_neg q).symm

theorem signed_mul (s s' : Sign) (p q : ℚ) : signed (s * s') (p * q) = signed s p * signed s' q := by
  cases s <;> cases s'
  · exact (neg_mul_neg p q).symm
  · exact (neg_mul p q).symm
  · exact (mul_neg p q).symm
  · rfl

theorem signed_div (s s' : Sign) (p q : ℚ) : signed (s / s') (p / q) = signed s p / signed s' q := by
  cases s <;> cases s'
  · exact (neg_div_neg_eq p q).symm
  · exact (neg_div q p).symm
  · exact (div_neg p).symm
  · rfl

/-- A signed mantissa that is moved down to an exponent. -/
theorem apply_mul_zpow (s : Sign) (m : Nat) (h : t ≤ e) :
    (s.apply (m * 2 ^ (e - t).toNat : Nat) : ℚ) * 2 ^ t = signed s (m * 2 ^ e) := by
  have hscale : ((m * 2 ^ (e - t).toNat : Nat) : ℚ) * 2 ^ t = m * 2 ^ e := by
    rw [Nat.cast_mul, Nat.cast_pow, Nat.cast_ofNat, mul_assoc, ← two_zpow_add]
    congr 2
    omega
  rw [← hscale]
  cases s with
  | positive => rw [Sign.apply, Int.cast_natCast, signed]
  | negative => rw [Sign.apply, Int.cast_neg, Int.cast_natCast, signed, neg_mul]

theorem unpacked_sub_eq_add_neg (u u' : UnpackedFloat) :
    UnpackedFloat.sub Format.binary64 u u' = UnpackedFloat.add Format.binary64 u u'.neg := by
  cases u with
  | notANumber => cases u' <;> rfl
  | infinity s => cases u' <;> rfl
  | zero s => cases u' <;> rfl
  | finite s m e hm =>
    cases u' with
    | notANumber | infinity | zero => rfl
    | finite s' m' e' hm' =>
      have happly (n : Nat) : (-s').apply n = -s'.apply n := by
        cases s' with
        | positive => rfl
        | negative => exact (neg_neg _).symm
      simp only [UnpackedFloat.sub, UnpackedFloat.neg, UnpackedFloat.add, happly, Int.sub_eq_add_neg]

theorem unpackedValue_neg (u : UnpackedFloat) : unpackedValue u.neg = -unpackedValue u := by
  cases u with
  | notANumber | infinity | zero => exact neg_zero.symm
  | finite s m e hm => exact signed_neg s _

theorem Proper.neg (hu : Proper u) : Proper u.neg := by
  cases u with
  | notANumber | infinity => exact hu.elim
  | zero | finite => exact hu

/-- A product of two mantissas has all bits, or both are at the least exponent. -/
theorem Canonical.full_or_least (hc : Canonical m e) (hc' : Canonical m' e') :
    2 ^ 52 ≤ m * m' ∨ e + e' ≤ -1074 := by
  rcases hc.normal with hfull | he
  · exact .inl (hfull.trans (Nat.le_mul_of_pos_right m hc'.pos))
  rcases hc'.normal with hfull' | he'
  · exact .inl (hfull'.trans (Nat.le_mul_of_pos_left m' hc.pos))
  · exact .inr (by omega)

/-- A quotient has all bits where the division is carried far enough down. -/
theorem two_pow_le_quotient {k : Nat} (hm : m ≠ 0) (hm' : 0 < m')
    (hk : 53 + m'.log2 ≤ m.log2 + k) : 2 ^ 52 ≤ m * 2 ^ k / m' := by
  refine (Nat.le_div_iff_mul_le hm').mpr ?_
  calc 2 ^ 52 * m' ≤ 2 ^ 52 * 2 ^ (m'.log2 + 1) := Nat.mul_le_mul_left _ Nat.lt_log2_self.le
    _ = 2 ^ (52 + (m'.log2 + 1)) := (Nat.pow_add ..).symm
    _ ≤ 2 ^ (m.log2 + k) := Nat.pow_le_pow_right two_pos (by omega)
    _ = 2 ^ m.log2 * 2 ^ k := Nat.pow_add ..
    _ ≤ m * 2 ^ k := Nat.mul_le_mul_right _ (Nat.log2_self_le hm)

section Proper

variable (hu : Proper u) (hu' : Proper u')

include hu hu'

theorem roundsTo_add :
    RoundsTo (UnpackedFloat.add Format.binary64 u u') (unpackedValue u + unpackedValue u') := by
  cases u with
  | notANumber | infinity => exact hu.elim
  | zero s =>
    cases u' with
    | notANumber | infinity => exact hu'.elim
    | zero s' =>
      rw [unpackedValue_zero, unpackedValue_zero, add_zero]
      cases s <;> cases s' <;> exact roundsTo_zero _
    | finite s' m' e' hm' =>
      rw [unpackedValue_zero, zero_add]
      exact roundsTo_self hu'
  | finite s m e hm =>
    cases u' with
    | notANumber | infinity => exact hu'.elim
    | zero s' =>
      rw [unpackedValue_zero, add_zero]
      exact roundsTo_self hu
    | finite s' m' e' hm' =>
      rw [UnpackedFloat.add]
      simp only [decreaseExponent, Nat.shiftLeft_eq]
      have hround := roundsTo_normalize (s.apply (m * 2 ^ (e - min e e').toNat : Nat) +
        s'.apply (m' * 2 ^ (e' - min e e').toNat : Nat)) (min e e') .positive
      rwa [Int.cast_add, add_mul, apply_mul_zpow s m (by omega),
        apply_mul_zpow s' m' (by omega)] at hround

/-- A difference is the sum with the other sign. -/
theorem roundsTo_sub :
    RoundsTo (UnpackedFloat.sub Format.binary64 u u') (unpackedValue u - unpackedValue u') := by
  rw [unpacked_sub_eq_add_neg, sub_eq_add_neg, ← unpackedValue_neg]
  exact roundsTo_add hu hu'.neg

theorem roundsTo_mul :
    RoundsTo (UnpackedFloat.mul Format.binary64 u u') (unpackedValue u * unpackedValue u') := by
  cases u with
  | notANumber | infinity => exact hu.elim
  | zero s =>
    rw [unpackedValue_zero, zero_mul]
    cases u' with
    | notANumber | infinity => exact hu'.elim
    | zero s' | finite s' => exact roundsTo_zero _
  | finite s m e hm =>
    cases u' with
    | notANumber | infinity => exact hu'.elim
    | zero s' =>
      rw [unpackedValue_zero, mul_zero]
      exact roundsTo_zero _
    | finite s' m' e' hm' =>
      have hc : Canonical m e := hu
      have hc' : Canonical m' e' := hu'
      have hproduct : (m : ℚ) * 2 ^ e * (m' * 2 ^ e') = (m * m' : Nat) * 2 ^ (e + e') := by
        rw [zpow_add₀ two_ne_zero, Nat.cast_mul]
        ring
      rw [UnpackedFloat.mul, unpackedValue, unpackedValue, ← signed_mul, hproduct]
      refine roundsTo_of_reads ?_ (.exact (mul_div_cancel_right₀ _ (two_zpow_pos _).ne')) ?_
      · rw [← hproduct]
        exact mul_pos hc.value_pos hc'.value_pos
      · rcases hc.full_or_least hc' with h | h
        · have hlog := (Nat.le_log2 (Nat.mul_pos hc.pos hc'.pos).ne').mpr h
          omega
        · omega

end Proper

theorem roundsTo_div (hu : Proper u) (hc' : Canonical m' e') :
    RoundsTo (UnpackedFloat.div Format.binary64 u (.finite s' m' e' hc'.pos))
      (unpackedValue u / unpackedValue (.finite s' m' e' hc'.pos)) := by
  cases u with
  | notANumber | infinity => exact hu.elim
  | zero s =>
    rw [unpackedValue_zero, zero_div]
    exact roundsTo_zero _
  | finite s m e hm =>
    have hc : Canonical m e := hu
    have hm' : (0 : ℚ) < m' := Nat.cast_pos.mpr hc'.pos
    obtain ⟨t, ht⟩ : ∃ t, min (e - e') (Format.binary64.targetExponent
        (Float.Model.totalExponent m e - Float.Model.totalExponent m' e')) = t := ⟨_, rfl⟩
    obtain ⟨k, hk⟩ : ∃ k, (e - e' - t).toNat = k := ⟨_, rfl⟩
    have hquotient : (m : ℚ) * 2 ^ e / (m' * 2 ^ e') / 2 ^ t = ((m * 2 ^ k : Nat) : ℚ) / m' := by
      have hexponent : e = k + (e' + t) := by omega
      rw [hexponent, two_zpow_add, zpow_add₀ two_ne_zero, Nat.cast_mul, Nat.cast_pow,
        Nat.cast_ofNat]
      have := two_zpow_pos e'
      have := two_zpow_pos t
      field_simp
    rw [UnpackedFloat.div, divCore, unpackedValue, unpackedValue, ← signed_div]
    simp only [ht, hk, Nat.shiftLeft_eq]
    refine roundsTo_of_reads (div_pos hc.value_pos hc'.value_pos) ?_ ?_
    · have hsplit : ((m * 2 ^ k / m' : Nat) : ℚ) + (m * 2 ^ k % m' : Nat) / m' =
          ((m * 2 ^ k : Nat) : ℚ) / m' := by
        rw [eq_div_iff hm'.ne', add_mul, div_mul_cancel₀ _ hm'.ne']
        exact_mod_cast Nat.div_add_mod' (m * 2 ^ k) m'
      rw [hquotient, ← hsplit]
      exact reads_accuracyOfFraction (Nat.mod_lt _ hc'.pos)
    -- the division is carried far enough down to leave all bits of the quotient
    · have hbits : (Format.binary64.mantissaBits : Int) = 53 := rfl
      have hleast : Format.binary64.minExponent = -1074 := rfl
      rw [Format.targetExponent, Float.Model.totalExponent, Float.Model.totalExponent, hbits,
        hleast] at ht
      rcases Int.lt_or_le (-1074) t with hlt | hle
      · have hfull : 2 ^ 52 ≤ m * 2 ^ k / m' :=
          two_pow_le_quotient hc.pos.ne' hc'.pos (by omega)
        have hlog := (Nat.le_log2 (by omega : m * 2 ^ k / m' ≠ 0)).mpr hfull
        omega
      · omega

/-! ## Packed again -/

theorem value_greatest : value greatest = ((2 ^ 53 - 1 : Nat) : ℚ) * 2 ^ (971 : Int) := by
  rw [value, unpack_greatest, unpackedValue, signed]

/-- **A double is this number, rounded:** it is finite unless that is beyond the greatest double,
and then an infinity. -/
structure IsRounded (q : ℚ) (v : Float) : Prop where
  isFinite_iff : v.isFinite = true ↔ |nearest q| ≤ value greatest
  value_eq : v.isFinite = true → value v = nearest q
  infinity_of_nonneg : 0 ≤ q → v.isFinite = false → v.toModel.unpack = .infinity .positive

/-- A canonical form fits a double unless its exponent is too great. -/
theorem Canonical.le_greatest_iff (hc : Canonical m e) :
    (m : ℚ) * 2 ^ e ≤ value greatest ↔ e ≤ 971 := by
  have hgreatest : Canonical (2 ^ 53 - 1) 971 := by
    constructor <;> decide
  rw [value_greatest]
  constructor
  · intro h
    by_contra he
    exact h.not_gt (hgreatest.lt_of_exponent_lt hc (by omega))
  · intro he
    rcases he.eq_or_lt with rfl | he
    · have hle : m ≤ 2 ^ 53 - 1 := Nat.le_sub_one_of_lt hc.lt
      exact mul_le_mul_of_nonneg_right (Nat.cast_le.mpr hle) (two_zpow_pos _).le
    · exact (hc.lt_of_exponent_lt hgreatest he).le

theorem abs_signed (s : Sign) (q : ℚ) : |signed s q| = |q| := by
  cases s with
  | positive => rfl
  | negative => exact abs_neg q

theorem representable_value (hv : v.isFinite = true) : Representable (value v) := by
  have hproper := proper_unpack hv
  rw [value]
  cases hu : v.toModel.unpack with
  | notANumber | infinity => rw [hu] at hproper; exact hproper.elim
  | zero => exact ⟨0, 0, by omega, by omega, by rw [unpackedValue_zero, abs_zero]; simp⟩
  | finite s m e hm =>
    rw [hu] at hproper
    have hc : Canonical m e := hproper
    exact ⟨m, e, hc.lt, hc.least, by rw [unpackedValue, abs_signed, abs_of_pos hc.value_pos]⟩

theorem onLeastGrid_value (hv : v.isFinite = true) : OnLeastGrid (value v) := by
  rcases cases_of_isFinite hv with rfl | rfl | ⟨s, m, e, hm, hu⟩
  · exact ⟨0, by rw [Int.cast_zero, zero_mul]; rfl⟩
  · exact ⟨0, by rw [Int.cast_zero, zero_mul]; rfl⟩
  · obtain ⟨hc, -⟩ := canonical_of_unpack hu
    refine ⟨_, Eq.trans ?_ (apply_mul_zpow s m hc.least).symm⟩
    rw [value, hu, unpackedValue]

theorem abs_value_le (v : Float) : |value v| ≤ value greatest := by
  rw [value]
  cases hu : v.toModel.unpack with
  | notANumber | infinity | zero =>
    change |(0 : ℚ)| ≤ value greatest
    rw [abs_zero, value_greatest]
    positivity
  | finite s m e hm =>
    obtain ⟨hc, he⟩ := canonical_of_unpack hu
    rw [unpackedValue, abs_signed, abs_of_pos hc.value_pos]
    exact hc.le_greatest_iff.mpr he

/-- A double that unpacks to a rounded number is this number, rounded. -/
theorem RoundsTo.isRounded_of_unpack (h : RoundsTo u q) (hv : v.toModel.unpack = u) :
    IsRounded q v := by
  have hfinite : v.isFinite = true := by
    have hproper := h.proper
    change v.toModel.unpack.isFinite = true
    rw [hv]
    cases u with
    | notANumber | infinity => exact hproper.elim
    | zero | finite => rfl
  have hvalue : Number.value v = nearest q := by rw [Number.value, hv, h.value]
  refine ⟨iff_of_true hfinite ?_, fun _ => hvalue, fun _ hv' => ?_⟩
  · rw [← hvalue]
    exact abs_value_le v
  · rw [hfinite] at hv'
    cases hv'

theorem RoundsTo.isRounded (h : RoundsTo u q) : IsRounded q ⟨.pack u⟩ := by
  have hproper := h.proper
  cases u with
  | notANumber | infinity => exact hproper.elim
  | zero s => exact h.isRounded_of_unpack (by cases s <;> rfl)
  | finite s m e hm =>
    have hc : Canonical m e := hproper
    have hunpack := unpack_pack (s := s) hc
    rcases Int.lt_or_le 971 e with he | he
    · rw [if_neg (by omega)] at hunpack
      have hinfinite : (⟨.pack (.finite s m e hm)⟩ : Float).isFinite = false := by
        change (Float.Model.pack (.finite s m e hm)).unpack.isFinite = false
        rw [hunpack]
        rfl
      have habs : |nearest q| = m * 2 ^ e := by
        rw [← h.value, unpackedValue, abs_signed, abs_of_pos hc.value_pos]
      refine ⟨?_, fun hfinite => ?_, fun hq _ => ?_⟩
      · rw [habs, hc.le_greatest_iff, hinfinite]
        exact iff_of_false Bool.false_ne_true (by omega)
      · rw [hinfinite] at hfinite
        cases hfinite
      · -- what is rounded from a number above zero has its sign
        cases s with
        | positive => exact hunpack
        | negative =>
          have hnonneg := nearest_nonneg hq
          have hpos := hc.value_pos
          rw [← h.value, unpackedValue, signed] at hnonneg
          linarith
    · rw [if_pos he] at hunpack
      exact h.isRounded_of_unpack hunpack

/-- A finite double is its own value, rounded. -/
theorem isRounded_self (hv : v.isFinite = true) : IsRounded (value v) v :=
  (roundsTo_self (proper_unpack hv)).isRounded_of_unpack rfl

theorem isRounded_zero : IsRounded 0 0 := by
  have hself := isRounded_self (v := 0) rfl
  exact hself

section Between

variable {p r : ℚ} (h : IsRounded q v) (hx : IsRounded p x) (hy : IsRounded r y)
variable (hxf : x.isFinite = true) (hyf : y.isFinite = true) (hpq : p ≤ q) (hqr : q ≤ r)

include h hx hy hxf hyf hpq hqr

/-- What lies between two numbers is rounded to between what they are rounded to. -/
theorem IsRounded.isFinite_of_between : v.isFinite = true := by
  have hlower := (abs_le.mp (hx.isFinite_iff.mp hxf)).1
  have hupper := (abs_le.mp (hy.isFinite_iff.mp hyf)).2
  exact h.isFinite_iff.mpr
    (abs_le.mpr ⟨hlower.trans (nearest_mono hpq), (nearest_mono hqr).trans hupper⟩)

theorem IsRounded.between : x ≤ v ∧ v ≤ y := by
  have hv := h.isFinite_of_between hx hy hxf hyf hpq hqr
  rw [le_iff_value_le hxf hv, le_iff_value_le hv hyf, h.value_eq hv, hx.value_eq hxf,
    hy.value_eq hyf]
  exact ⟨nearest_mono hpq, nearest_mono hqr⟩

end Between

section Finite

variable (hv : v.isFinite = true) (hw : w.isFinite = true)

include hv hw

/-- **Arithmetic on finite doubles is exact arithmetic, rounded.** -/
theorem isRounded_add : IsRounded (value v + value w) (v + w) :=
  (roundsTo_add (proper_unpack hv) (proper_unpack hw)).isRounded

theorem isRounded_sub : IsRounded (value v - value w) (v - w) :=
  (roundsTo_sub (proper_unpack hv) (proper_unpack hw)).isRounded

theorem isRounded_mul : IsRounded (value v * value w) (v * w) :=
  (roundsTo_mul (proper_unpack hv) (proper_unpack hw)).isRounded

theorem isRounded_div (hzero : value w ≠ 0) : IsRounded (value v / value w) (v / w) := by
  have hproper := proper_unpack hw
  have hdiv : v / w =
      ⟨.pack (UnpackedFloat.div Format.binary64 v.toModel.unpack w.toModel.unpack)⟩ := rfl
  rw [hdiv, value, value]
  rw [value] at hzero
  cases hu : w.toModel.unpack with
  | notANumber | infinity =>
    rw [hu] at hproper
    exact hproper.elim
  | zero s =>
    rw [hu] at hzero
    exact absurd rfl hzero
  | finite s m e hm =>
    rw [hu] at hproper
    exact (roundsTo_div (proper_unpack hv) hproper).isRounded

theorem isFinite_sub_comm : (v - w).isFinite = true ↔ (w - v).isFinite = true := by
  rw [(isRounded_sub hv hw).isFinite_iff, (isRounded_sub hw hv).isFinite_iff, ← neg_sub,
    nearest_neg, abs_neg]

end Finite

end Number

end Reckon
