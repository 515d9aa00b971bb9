import Reckon.Proofs.Calculus.Interval
import Reckon.Proofs.Except
/-!
# Calculus — a golden-section search on doubles stays in its interval

Every step keeps all points of a bracket in the interval that the search was started on
(`Kept.narrow`), also where rounding has let the inner points pass each other. A search of a
template fails only where the ratio of the tolerance to the width is rounded to zero, and its point
leaves the interval only where the ends of the last bracket have a sum that overflows
(`findExtremum_within`).
-/

namespace Reckon

namespace Calculus

open Number (value)

variable {a b x y t ratio width : Float} {s : Bracket Float}

/-! ## Brackets -/

/-- **A bracket that is kept in an interval,** with its inner points; these need not be in order. -/
structure Kept (a b : Float) (s : Bracket Float) : Prop where
  lower : Within a b s.a
  left : Within a b s.c
  right : Within a b s.d
  upper : Within a b s.b

section Search

variable {f rank : Float → Except Error Float} (hrank : ∀ x, ∃ v, rank x = .ok v)
variable (ha : a.isFinite = true) (hb : b.isFinite = true) (hratio : IsShare ratio)

include hrank ha hb hratio

/-- **A step keeps a bracket in the interval.** -/
theorem Kept.narrow (hwidth : (b - a).isFinite = true) (hs : Kept a b s) :
    ∃ s', s.narrow ratio rank = .ok s' ∧ Kept a b s' := by
  rw [Bracket.narrow]
  split
  · obtain ⟨v, hv⟩ := hrank (Bracket.innerLeft ratio s.a s.d)
    obtain ⟨hleft, -⟩ := inner_within ha hb hs.lower hs.right hratio hwidth
    simp only [hv]
    exact ⟨_, rfl, hs.lower, hleft, hs.left, hs.right⟩
  · obtain ⟨v, hv⟩ := hrank (Bracket.innerRight ratio s.c s.b)
    obtain ⟨-, hright⟩ := inner_within ha hb hs.left hs.upper hratio hwidth
    simp only [hv]
    exact ⟨_, rfl, hs.left, hs.right, hright, hs.upper⟩

/-- **So does a run of steps.** -/
theorem Kept.narrowTimes (hwidth : (b - a).isFinite = true) (n : Nat) (hs : Kept a b s) :
    ∃ s', s.narrowTimes ratio rank n = .ok s' ∧ Kept a b s' := by
  induction n generalizing s with
  | zero => exact ⟨s, rfl, hs⟩
  | succ n ih =>
    obtain ⟨next, hnext, hkept⟩ := hs.narrow hrank ha hb hratio hwidth
    obtain ⟨last, hlast, hkept'⟩ := ih hkept
    exact ⟨last, Except.bind_eq_ok_iff.mpr ⟨next, hnext, hlast⟩, hkept'⟩

/-- The first bracket has both bounds for its ends, and is kept where the width is finite. -/
theorem exists_start (hab : a ≤ b) : ∃ first, Bracket.start ratio rank a b = .ok first ∧
    ((b - a).isFinite = true → Kept a b first) := by
  have hlower : Within a b a := ⟨Number.le_refl_of_isFinite ha, hab⟩
  have hupper : Within a b b := ⟨hab, Number.le_refl_of_isFinite hb⟩
  obtain ⟨fc, hfc⟩ := hrank (Bracket.innerLeft ratio a b)
  obtain ⟨fd, hfd⟩ := hrank (Bracket.innerRight ratio a b)
  refine ⟨⟨a, b, Bracket.innerLeft ratio a b, Bracket.innerRight ratio a b, fc, fd⟩,
    Except.bind_eq_ok_iff.mpr ⟨fc, hfc, Except.bind_eq_ok_iff.mpr ⟨fd, hfd, rfl⟩⟩,
    fun hwidth => ?_⟩
  obtain ⟨hleft, hright⟩ := inner_within ha hb hlower hupper hratio hwidth
  exact ⟨hlower, hleft, hright, hupper⟩

/-- **A search of so many steps ends with a bracket in the interval.** -/
theorem exists_goldenSection {steps : Except Error Nat} {n : Nat} (hf : ∀ x, ∃ v, f x = .ok v)
    (hab : a ≤ b) (hwidth : (b - a).isFinite = true) (hsteps : steps = .ok n) :
    ∃ last v, (Bracket.start ratio rank a b >>= Bracket.narrowTimes ratio rank n) = .ok last ∧
      Kept a b last ∧ goldenSection ratio rank f steps a b = .ok (last.middle, v) ∧
      f last.middle = .ok v := by
  obtain ⟨first, hfirst, hkept⟩ := exists_start hrank ha hb hratio hab
  obtain ⟨last, hlast, hkept'⟩ := (hkept hwidth).narrowTimes hrank ha hb hratio hwidth n
  obtain ⟨v, hv⟩ := hf last.middle
  refine ⟨last, v, Except.bind_eq_ok_iff.mpr ⟨first, hfirst, hlast⟩, hkept', ?_, hv⟩
  rw [goldenSection]
  exact Except.bind_eq_ok_iff.mpr ⟨first, hfirst, Except.bind_eq_ok_iff.mpr ⟨n, hsteps,
    Except.bind_eq_ok_iff.mpr ⟨last, hlast, Except.bind_eq_ok_iff.mpr ⟨v, hv, rfl⟩⟩⟩⟩

end Search

/-! ## The search of a template -/

theorem unpack_goldenRatio :
    goldenRatio.toModel.unpack = .finite .positive 5566755282872656 (-53) (by decide) := by
  have hbits : goldenRatio = Float.ofBits 0x3fe3c6ef372fe950 := by decide +kernel
  rw [hbits]
  rfl

theorem isShare_goldenRatio : IsShare goldenRatio := by
  have hvalue : value goldenRatio = 5566755282872656 * 2 ^ (-53 : ℤ) := by
    rw [value, unpack_goldenRatio, Number.unpackedValue, Number.signed, Nat.cast_ofNat]
  refine ⟨?_, ?_, ?_⟩
  · change goldenRatio.toModel.unpack.isFinite = true
    rw [unpack_goldenRatio]
    rfl
  · rw [hvalue]
    positivity
  · rw [hvalue]
    norm_num

/-- **The ratio of a tolerance to a width has no logarithm:** it is rounded to zero. -/
def Vanishes (tol : Quantity) (width : Float) : Prop :=
  tol.below width = true ∧ ∃ t, double tol = .ok t ∧ t / width ≤ 0

theorem stepCount_of_vanishes {tol : Quantity} (h : Vanishes tol width) :
    stepCount width tol = .error .vanishingTolerance := by
  obtain ⟨hbelow, t, ht, hratio⟩ := h
  simp only [stepCount, if_pos hbelow, ht]
  refine Except.bind_eq_error_iff.mpr (.inr ⟨t, rfl, ?_⟩)
  rw [if_pos hratio]
  rfl

/-- A finite tolerance vanishes beside an infinite width. -/
theorem vanishes_of_infinity {tol : Quantity} (ht : double tol = .ok t)
    (hfinite : t.isFinite = true) (hwidth : width.toModel.unpack = .infinity .positive) :
    Vanishes tol width := by
  have hpos : 0 < width := Number.lt_of_unpack_infinity rfl hwidth
  have hinfinite : width.isFinite = false := by
    change width.toModel.unpack.isFinite = false
    rw [hwidth]
    rfl
  refine ⟨?_, t, ht, ?_⟩
  · cases tol with
    | truth b | whole n => simp [Quantity.below, Quantity.integer?, hinfinite, hpos]
    | real w =>
      obtain rfl : w = t := Except.ok.inj ht
      exact decide_eq_true (Number.lt_of_unpack_infinity hfinite hwidth)
  · obtain ⟨s, hzero⟩ := Number.unpack_div_infinity hfinite hwidth
    rw [Number.le_iff_unpack, hzero]
    rfl

/-- Unless it vanishes there is a number of steps. -/
theorem exists_stepCount {tol : Quantity} (ht : double tol = .ok t) (h : ¬ Vanishes tol width) :
    ∃ n, stepCount width tol = .ok n := by
  by_cases hbelow : tol.below width = true
  · have hratio : ¬ t / width ≤ 0 := fun hle => h ⟨hbelow, t, ht, hle⟩
    refine ⟨(Number.ceilInt ((t / width).log / goldenRatio.log)).toNat, ?_⟩
    simp only [stepCount, if_pos hbelow, ht]
    refine Except.bind_eq_ok_iff.mpr ⟨t, rfl, ?_⟩
    rw [if_neg hratio]
    rfl
  · exact ⟨0, if_neg hbelow⟩

theorem lesser_le_greater (hx : x.isFinite = true) (hy : y.isFinite = true) :
    lesser x y ≤ greater x y := by
  rw [lesser, greater]
  split_ifs with h h' h'
  · exact absurd ((Number.lt_iff_value_lt hy hx).mp h)
      ((Number.lt_iff_value_lt hx hy).mp h').asymm
  · rw [Number.le_iff_value_le hy hx]
    exact ((Number.lt_iff_value_lt hy hx).mp h).le
  · rw [Number.le_iff_value_le hx hy]
    exact ((Number.lt_iff_value_lt hx hy).mp h').le
  · exact Number.le_refl_of_isFinite hx

theorem exists_rank {f : Float → Except Error Float} (kind : Extremum)
    (hf : ∀ x, ∃ v, f x = .ok v) (x : Float) : ∃ v, kind.rank f x = .ok v := by
  obtain ⟨v, hv⟩ := hf x
  exact ⟨kind.sign * v, Except.bind_eq_ok_iff.mpr ⟨v, hv, rfl⟩⟩

/-- **An extremum is found within the bounds, unless a double vanishes or overflows.** For a
template that has a value everywhere there are two exceptions. Where the ratio of the tolerance to
the width is rounded to zero, as it is for every width that is not finite, there is no number of
steps, and the search fails. Otherwise the point is the middle of a bracket whose ends lie within
the bounds, and is beyond them exactly if the sum of these ends overflows, which takes a bound that
overflows when doubled. -/
theorem findExtremum_within (S : Settings.Standing) (template : String) (lower upper : Float)
    (kind : Extremum) (tolerance : Value) (tol : Quantity) (t : Float)
    (hlower : lower.isFinite = true) (hupper : upper.isFinite = true)
    (htol : positive .toleranceNotPositive tolerance (S .extremumTolerance) = .ok tol)
    (ht : double tol = .ok t) (hfinite : t.isFinite = true)
    (hf : ∀ x, ∃ v, sampler S template x = .ok v) :
    ((greater lower upper - lesser lower upper).isFinite = false →
        Vanishes tol (greater lower upper - lesser lower upper)) ∧
      (Vanishes tol (greater lower upper - lesser lower upper) →
        findExtremum S template lower upper kind.word tolerance = .error .vanishingTolerance) ∧
      (¬ Vanishes tol (greater lower upper - lesser lower upper) → ∃ n last v,
        stepCount (greater lower upper - lesser lower upper) tol = .ok n ∧
        (Bracket.start goldenRatio (kind.rank (sampler S template)) (lesser lower upper)
            (greater lower upper) >>=
          Bracket.narrowTimes goldenRatio (kind.rank (sampler S template)) n) = .ok last ∧
        Kept (lesser lower upper) (greater lower upper) last ∧
        findExtremum S template lower upper kind.word tolerance = .ok (last.middle, v) ∧
        sampler S template last.middle = .ok v ∧
        (Within (lesser lower upper) (greater lower upper) last.middle ↔
          (last.a + last.b).isFinite = true) ∧
        ((lower + lower).isFinite = true → (upper + upper).isFinite = true →
          (last.a + last.b).isFinite = true)) := by
  have hkind : Extremum.ofWord kind.word = .ok kind := by cases kind <;> rfl
  have hrank := exists_rank kind hf
  have hsearch : findExtremum S template lower upper kind.word tolerance =
      goldenSection goldenRatio (kind.rank (sampler S template)) (sampler S template)
        (stepCount (greater lower upper - lesser lower upper) tol) (lesser lower upper)
        (greater lower upper) := by
    simp only [findExtremum, hkind, htol]
    rfl
  have hab := lesser_le_greater hlower hupper
  have hcases : lesser lower upper = upper ∨ lesser lower upper = lower := ite_eq_or_eq ..
  have hcases' : greater lower upper = upper ∨ greater lower upper = lower := ite_eq_or_eq ..
  generalize lesser lower upper = a at hsearch hab hcases ⊢
  generalize greater lower upper = b at hsearch hab hcases' ⊢
  have ha : a.isFinite = true := by rcases hcases with rfl | rfl <;> assumption
  have hb : b.isFinite = true := by rcases hcases' with rfl | rfl <;> assumption
  have hinfinite : (b - a).isFinite = false → Vanishes tol (b - a) := by
    intro hwidth
    have hnonneg := sub_nonneg.mpr ((Number.le_iff_value_le ha hb).mp hab)
    exact vanishes_of_infinity ht hfinite
      ((Number.isRounded_sub hb ha).infinity_of_nonneg hnonneg hwidth)
  refine ⟨hinfinite, fun hvanishes => ?_, fun hvanishes => ?_⟩
  · obtain ⟨first, hfirst, -⟩ := exists_start hrank ha hb isShare_goldenRatio hab
    rw [hsearch, goldenSection, hfirst, stepCount_of_vanishes hvanishes]
    rfl
  · have hwidth : (b - a).isFinite = true := by
      by_contra h
      exact hvanishes (hinfinite (Bool.eq_false_iff.mpr h))
    obtain ⟨n, hn⟩ := exists_stepCount ht hvanishes
    obtain ⟨last, v, hlast, hkept, hresult, hv⟩ :=
      exists_goldenSection hrank ha hb isShare_goldenRatio hf hab hwidth hn
    refine ⟨n, last, v, hn, hlast, hkept, hsearch.trans hresult, hv,
      middle_within_iff ha hb hkept.lower hkept.upper, fun hdouble hdouble' => ?_⟩
    refine isFinite_add_of_double ha hb hkept.lower hkept.upper ?_ ?_
    · rcases hcases with rfl | rfl <;> assumption
    · rcases hcases' with rfl | rfl <;> assumption

/-- A template that has a value everywhere. -/
def constant : String := "1"

theorem sampler_constant (x : Float) : sampler Settings.default.standing constant x = .ok 1 := rfl

/-- Its extremum is within narrow bounds. -/
theorem constant_extremum_near :
    ¬ Vanishes (.real 1e-8) (3 - -1) ∧ ((-1 : Float) + -1).isFinite = true ∧
      ((3 : Float) + 3).isFinite = true ∧
      ∃ x, findExtremum Settings.default.standing constant (-1) 3 "max" = .ok (x, 1) ∧
        Within (-1) 3 x := by
  have hvanishes : ¬ Vanishes (.real 1e-8) (3 - -1) := by
    rintro ⟨-, t, ht, hratio⟩
    obtain rfl : 1e-8 = t := Except.ok.inj ht
    revert hratio
    decide +kernel
  have hbounds : lesser (-1 : Float) 3 = -1 ∧ greater (-1 : Float) 3 = 3 := by decide +kernel
  obtain ⟨-, -, hfound⟩ := findExtremum_within Settings.default.standing constant (-1) 3 .maximum
    .nothing (.real 1e-8) 1e-8 rfl rfl rfl rfl rfl fun x => ⟨1, sampler_constant x⟩
  rw [hbounds.1, hbounds.2] at hfound
  obtain ⟨n, last, v, -, -, -, hresult, hv, hwithin, hsum⟩ := hfound hvanishes
  obtain rfl : v = 1 := Except.ok.inj (hv.symm.trans (sampler_constant _))
  exact ⟨hvanishes, rfl, rfl, last.middle, hresult, hwithin.mpr (hsum rfl rfl)⟩

/-- Bounds with an infinite sum have no middle within them, and none is found where the width is
infinite. -/
theorem constant_extremum_far :
    (1.7e308 : Float).isFinite = true ∧ (-1.7e308 : Float).isFinite = true ∧
      findExtremum Settings.default.standing constant 1.7e308 1.7e308 =
        .ok (Number.infinity, 1) ∧
      ¬ Within (lesser 1.7e308 1.7e308) (greater 1.7e308 1.7e308) Number.infinity ∧
      findExtremum Settings.default.standing constant (-1.7e308) 1.7e308 =
        .error .vanishingTolerance := by
  refine ⟨by decide +kernel, by decide +kernel, by decide +kernel, fun h => ?_, by decide +kernel⟩
  exact absurd h.right (by decide +kernel)

end Calculus

end Reckon
