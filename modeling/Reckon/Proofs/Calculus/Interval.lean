import Reckon.Calculus
import Reckon.Proofs.Number.Difference
/-!
# Calculus — the points of a bracket on doubles

The width of a bracket, the share that is cut off it and the point where that leads are each
rounded. The share never exceeds the exact width (`share_le`), so that the inner points stay
between the ends (`inner_within`). The middle does exactly if the sum of the ends is finite
(`middle_within_iff`), which is rounded before it is halved.
-/

namespace Reckon

namespace Calculus

open Number (value nearest nearest_nonneg grid Representable OnLeastGrid onLeastGrid_value)

variable {φ δ : ℚ} {a b x y ratio : Float}

/-! ## A share of a rounded width -/

/-- **Two thirds of a width that was rounded, rounded again, are no more than the width:** the
mantissa below the width is at most one unit below the rounded width, and two thirds are further
down. -/
theorem share_le (hφ : φ ≤ 2 / 3) (hδ : 0 ≤ δ) (hgrid : OnLeastGrid δ) :
    nearest (φ * nearest δ) ≤ δ := by
  rcases lt_or_ge δ (2 ^ 53 * 2 ^ (-1074 : ℤ)) with hlt | hge
  -- a short width is not rounded
  · have hexact := hgrid.representable (by rwa [abs_of_nonneg hδ])
    have hshare : φ * δ ≤ 2 / 3 * δ := mul_le_mul_of_nonneg_right hφ hδ
    rw [Number.nearest_of_representable hexact]
    exact Number.nearest_le hexact (by linarith)
  · have hpos : 0 < δ := (by positivity : (0 : ℚ) < 2 ^ 53 * 2 ^ (-1074 : ℤ)).trans_le hge
    have hleast : -1074 < grid δ :=
      not_le.mp fun hle => hge.not_gt ((Number.grid_le_iff hpos le_rfl).mp hle)
    have hunit := Number.two_zpow_pos (grid δ)
    obtain ⟨n, hshort, hfull, hbelow, hrounded⟩ := Number.exists_mantissa_le hpos
    have hlong : ((2 ^ 52 : ℕ) : ℚ) ≤ n := Nat.cast_le.mpr (hfull hleast)
    have hcount : 2 / 3 * ((n : ℚ) + 1) ≤ n := by
      push_cast at hlong
      linarith
    have hmantissa : Representable (n * 2 ^ grid δ) :=
      ⟨n, grid δ, hshort, Number.least_le_grid δ, abs_of_nonneg (by positivity)⟩
    refine (Number.nearest_le hmantissa ?_).trans hbelow
    calc φ * nearest δ ≤ 2 / 3 * nearest δ :=
          mul_le_mul_of_nonneg_right hφ (nearest_nonneg hδ)
      _ ≤ 2 / 3 * ((n + 1) * 2 ^ grid δ) := mul_le_mul_of_nonneg_left hrounded (by norm_num)
      _ = 2 / 3 * ((n : ℚ) + 1) * 2 ^ grid δ := by ring
      _ ≤ n * 2 ^ grid δ := mul_le_mul_of_nonneg_right hcount hunit.le

/-- A share lies between nothing and the whole, on either side of zero. -/
theorem share_bounds (hφ : 0 ≤ φ) (hφ' : φ ≤ 2 / 3) (hgrid : OnLeastGrid δ) :
    (0 ≤ nearest (φ * nearest δ) ∧ nearest (φ * nearest δ) ≤ δ) ∨
      (δ ≤ nearest (φ * nearest δ) ∧ nearest (φ * nearest δ) ≤ 0) := by
  rcases le_total 0 δ with hδ | hδ
  · exact .inl ⟨nearest_nonneg (mul_nonneg hφ (nearest_nonneg hδ)), share_le hφ' hδ hgrid⟩
  · right
    have hmirror : nearest (φ * nearest δ) = -nearest (φ * nearest (-δ)) := by
      rw [← Number.nearest_neg, Number.nearest_neg δ, mul_neg, neg_neg]
    have hle := share_le hφ' (neg_nonneg.mpr hδ) hgrid.neg
    have hnonneg := nearest_nonneg (mul_nonneg hφ (nearest_nonneg (neg_nonneg.mpr hδ)))
    rw [hmirror]
    constructor <;> linarith

/-! ## Points of an interval -/

/-- **A double lies in an interval.** -/
structure Within (a b x : Float) : Prop where
  left : a ≤ x
  right : x ≤ b

/-- **A share to cut off a bracket:** at most two thirds. -/
structure IsShare (ratio : Float) : Prop where
  finite : ratio.isFinite = true
  nonneg : 0 ≤ value ratio
  le : value ratio ≤ 2 / 3

/-- A share of a double is finite, since it lies between zero and the double. -/
theorem IsShare.isFinite_mul (hratio : IsShare ratio) (hx : x.isFinite = true) :
    (ratio * x).isFinite = true := by
  have hshare := Number.isRounded_mul hratio.finite hx
  have hself := Number.isRounded_self hx
  have hone : value ratio ≤ 1 := hratio.le.trans (by norm_num)
  rcases le_total 0 (value x) with hsign | hsign
  · have hnonneg := mul_nonneg hratio.nonneg hsign
    have hle := mul_le_mul_of_nonneg_right hone hsign
    exact hshare.isFinite_of_between Number.isRounded_zero hself rfl hx hnonneg (by linarith)
  · have hnonpos := mul_nonpos_of_nonneg_of_nonpos hratio.nonneg hsign
    have hge := mul_le_mul_of_nonpos_right hone hsign
    exact hshare.isFinite_of_between hself Number.isRounded_zero hx rfl (by linarith) hnonpos

section Interval

variable (ha : a.isFinite = true) (hb : b.isFinite = true)

include ha hb

theorem Within.isFinite (hx : Within a b x) : x.isFinite = true :=
  Number.isFinite_of_between ha hb hx.left hx.right

theorem within_iff (hx : x.isFinite = true) :
    Within a b x ↔ value a ≤ value x ∧ value x ≤ value b := by
  rw [← Number.le_iff_value_le ha hx, ← Number.le_iff_value_le hx hb]
  exact ⟨fun h => ⟨h.left, h.right⟩, fun h => ⟨h.1, h.2⟩⟩

theorem Within.value_bounds (hx : Within a b x) : value a ≤ value x ∧ value x ≤ value b :=
  (within_iff ha hb (hx.isFinite ha hb)).mp hx

/-- What lies in the interval exactly does so rounded. -/
theorem within_of_isRounded {q : ℚ} (h : Number.IsRounded q x) (hleft : value a ≤ q)
    (hright : q ≤ value b) : Within a b x := by
  obtain ⟨hax, hxb⟩ :=
    h.between (Number.isRounded_self ha) (Number.isRounded_self hb) ha hb hleft hright
  exact ⟨hax, hxb⟩

section Points

variable (hx : Within a b x) (hy : Within a b y)

include hx hy

/-- The distance of two points is finite where the width is. -/
theorem isFinite_distance (hwidth : (b - a).isFinite = true) : (y - x).isFinite = true := by
  have hxb := hx.value_bounds ha hb
  have hyb := hy.value_bounds ha hb
  have hdistance := Number.isRounded_sub (hy.isFinite ha hb) (hx.isFinite ha hb)
  have hwidth' := (Number.isFinite_sub_comm hb ha).mp hwidth
  exact hdistance.isFinite_of_between (Number.isRounded_sub ha hb) (Number.isRounded_sub hb ha)
    hwidth' hwidth (by linarith) (by linarith)

/-- **The inner points of a bracket lie in the interval,** whichever end is the lower one. -/
theorem inner_within (hratio : IsShare ratio) (hwidth : (b - a).isFinite = true) :
    Within a b (Bracket.innerLeft ratio x y) ∧ Within a b (Bracket.innerRight ratio x y) := by
  have hxf := hx.isFinite ha hb
  have hyf := hy.isFinite ha hb
  have hdistance := isFinite_distance ha hb hx hy hwidth
  have hround := Number.isRounded_mul hratio.finite hdistance
  have hshare := hratio.isFinite_mul hdistance
  have hvalue : value (ratio * (y - x)) = nearest (value ratio * nearest (value y - value x)) := by
    rw [hround.value_eq hshare, (Number.isRounded_sub hyf hxf).value_eq hdistance]
  have hgrid := (onLeastGrid_value hyf).sub (onLeastGrid_value hxf)
  have hshares := share_bounds hratio.nonneg hratio.le hgrid
  rw [← hvalue] at hshares
  have hxb := hx.value_bounds ha hb
  have hyb := hy.value_bounds ha hb
  constructor
  · refine within_of_isRounded ha hb (Number.isRounded_sub hyf hshare) ?_ ?_ <;>
      rcases hshares with ⟨h, h'⟩ | ⟨h, h'⟩ <;> linarith
  · refine within_of_isRounded ha hb (Number.isRounded_add hxf hshare) ?_ ?_ <;>
      rcases hshares with ⟨h, h'⟩ | ⟨h, h'⟩ <;> linarith

/-- **The middle of two points lies in the interval exactly if their sum is finite.** -/
theorem middle_within_iff : Within a b ((x + y) / 2) ↔ (x + y).isFinite = true := by
  constructor
  · intro h
    by_contra hsum
    have hmiddle := Number.not_isFinite_div (Bool.eq_false_iff.mpr hsum) 2
    rw [h.isFinite ha hb] at hmiddle
    cases hmiddle
  · intro hsum
    have hxb := hx.value_bounds ha hb
    have hyb := hy.value_bounds ha hb
    have hround := (Number.isRounded_add (hx.isFinite ha hb) (hy.isFinite ha hb)).value_eq hsum
    -- twice a bound is a number of 53 bits, and so the sum is not rounded past it
    have hlower : 2 * value a ≤ value (x + y) := by
      rw [hround]
      exact Number.le_nearest (Number.representable_value ha).two_mul (by linarith)
    have hupper : value (x + y) ≤ 2 * value b := by
      rw [hround]
      exact Number.nearest_le (Number.representable_value hb).two_mul (by linarith)
    exact within_of_isRounded ha hb (Number.isRounded_half hsum) (by linarith) (by linarith)

/-- It is so where neither bound overflows when doubled. -/
theorem isFinite_add_of_double (hdouble : (a + a).isFinite = true)
    (hdouble' : (b + b).isFinite = true) : (x + y).isFinite = true := by
  have hxb := hx.value_bounds ha hb
  have hyb := hy.value_bounds ha hb
  have hsum := Number.isRounded_add (hx.isFinite ha hb) (hy.isFinite ha hb)
  exact hsum.isFinite_of_between (Number.isRounded_add ha ha) (Number.isRounded_add hb hb) hdouble
    hdouble' (by linarith) (by linarith)

end Points

end Interval

end Calculus

end Reckon
