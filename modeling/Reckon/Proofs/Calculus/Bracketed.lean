import Mathlib.Algebra.Order.Field.Basic
import Mathlib.Analysis.Real.Sqrt
import Mathlib.Order.Interval.Set.Basic
import Mathlib.Tactic.Linarith
import Mathlib.Tactic.LinearCombination
import Mathlib.Tactic.Ring
import Reckon.Calculus
/-!
# Calculus — what a golden-section search keeps in its bracket

Read over an ordered field with an inverse golden ratio, `φ ^ 2 = 1 - φ`. A step samples one
inner point and takes the other over from the bracket before, which that equation puts where a
new one would be: both inner points cut every bracket in the ratio (`Golden.narrow`). The part
that is dropped never holds the point to which the samples fall and from which they rise, not
even where the two samples tie, and a run of steps shrinks the bracket by a power of the ratio
around that point (`golden_narrowTimes`).
-/

namespace Reckon

namespace Calculus

open Set (Icc)

variable {α : Type} [Field α] [LinearOrder α] [IsStrictOrderedRing α]
variable {φ a₀ b₀ m : α} {f g : α → α} {s : Bracket α} {k : ℕ}

/-! ## The ratio -/

/-- **The inverse golden ratio:** the whole is to its larger part as that is to the rest. -/
structure IsGolden (φ : α) : Prop where
  pos : 0 < φ
  sq : φ ^ 2 = 1 - φ

namespace IsGolden

variable (hφ : IsGolden φ)

include hφ

theorem lt_one : φ < 1 := by
  have hsq : 0 < φ ^ 2 := pow_pos hφ.pos 2
  have := hφ.sq
  linarith

/-- The larger part is more than half. -/
theorem one_lt_two_mul : 1 < 2 * φ := by
  by_contra hle
  have hsquare : 0 ≤ (1 - 2 * φ) * (1 + 2 * φ) :=
    mul_nonneg (by linarith) (by linarith [hφ.pos])
  have hexpand : (1 - 2 * φ) * (1 + 2 * φ) = 1 - 4 * φ ^ 2 := by ring
  have := hφ.sq
  linarith

end IsGolden

/-! ## Extrema -/

/-- **A valley:** samples that fall to `m` and rise from there, between two bounds. -/
structure Valley (g : α → α) (a m b : α) : Prop where
  left : a ≤ m
  right : m ≤ b
  falls : StrictAntiOn g (Icc a m)
  rises : StrictMonoOn g (Icc m b)

/-- **Where the only extremum is:** a minimum is the bottom of a valley, and a maximum one of the
negated function. -/
def Extremum.IsAt (kind : Extremum) (f : α → α) (a m b : α) : Prop :=
  match kind with
  | .minimum => Valley f a m b
  | .maximum => Valley (fun x => -f x) a m b

omit [IsStrictOrderedRing α] in
/-- The samples that a search makes small have a valley there. -/
theorem Extremum.IsAt.valley {kind : Extremum} (h : kind.IsAt f a₀ m b₀) :
    Valley (fun x => kind.sign * f x) a₀ m b₀ := by
  cases kind with
  | minimum => simpa only [IsAt, sign, one_mul] using h
  | maximum => simpa only [IsAt, sign, neg_mul, one_mul] using h

/-! ## Brackets -/

/-- **A bracket in the golden ratio,** after so many steps from its first bounds: it is cut by
its inner points, has their samples, and holds the bottom of the valley. -/
structure Golden (φ : α) (g : α → α) (a₀ m b₀ : α) (k : ℕ) (s : Bracket α) : Prop where
  c_eq : s.c = s.b - φ * (s.b - s.a)
  d_eq : s.d = s.a + φ * (s.b - s.a)
  fc_eq : s.fc = g s.c
  fd_eq : s.fd = g s.d
  width : s.b - s.a = φ ^ k * (b₀ - a₀)
  inner_left : a₀ ≤ s.a
  left : s.a ≤ m
  right : m ≤ s.b
  inner_right : s.b ≤ b₀

namespace Golden

variable (hs : Golden φ g a₀ m b₀ k s) (hφ : IsGolden φ) (hbounds : a₀ < b₀)

include hs hφ hbounds

theorem a_lt_b : s.a < s.b := by
  have hwidth : 0 < φ ^ k * (b₀ - a₀) := mul_pos (pow_pos hφ.pos k) (sub_pos.mpr hbounds)
  have := hs.width
  linarith

theorem a_lt_c : s.a < s.c := by
  have hrest : 0 < (1 - φ) * (s.b - s.a) :=
    mul_pos (sub_pos.mpr hφ.lt_one) (sub_pos.mpr (hs.a_lt_b hφ hbounds))
  have hc : s.c = s.a + (1 - φ) * (s.b - s.a) := by rw [hs.c_eq]; ring
  linarith

theorem c_lt_d : s.c < s.d := by
  have hmiddle : 0 < (2 * φ - 1) * (s.b - s.a) :=
    mul_pos (sub_pos.mpr hφ.one_lt_two_mul) (sub_pos.mpr (hs.a_lt_b hφ hbounds))
  have hd : s.d = s.c + (2 * φ - 1) * (s.b - s.a) := by rw [hs.c_eq, hs.d_eq]; ring
  linarith

theorem d_lt_b : s.d < s.b := by
  have hrest : 0 < (1 - φ) * (s.b - s.a) :=
    mul_pos (sub_pos.mpr hφ.lt_one) (sub_pos.mpr (hs.a_lt_b hφ hbounds))
  have hd : s.d = s.b - (1 - φ) * (s.b - s.a) := by rw [hs.d_eq]; ring
  linarith

/-- Where the left sample is smaller the bottom is left of the right point: beyond it the samples
still fall between the two. -/
theorem le_d (hg : Valley g a₀ m b₀) (hlt : s.fc < s.fd) : m ≤ s.d := by
  by_contra hm
  have hac := hs.a_lt_c hφ hbounds
  have hcd := hs.c_lt_d hφ hbounds
  have hleft := hs.inner_left
  have hfalls : g s.d < g s.c := hg.falls ⟨by linarith, by linarith⟩ ⟨by linarith, by linarith⟩ hcd
  rw [hs.fc_eq, hs.fd_eq] at hlt
  exact absurd hlt hfalls.asymm

/-- Where it is not, the bottom is right of the left point, a tie included. -/
theorem c_le (hg : Valley g a₀ m b₀) (hle : ¬ s.fc < s.fd) : s.c ≤ m := by
  by_contra hm
  have hcd := hs.c_lt_d hφ hbounds
  have hdb := hs.d_lt_b hφ hbounds
  have hright := hs.inner_right
  have hrises : g s.c < g s.d := hg.rises ⟨by linarith, by linarith⟩ ⟨by linarith, by linarith⟩ hcd
  rw [hs.fc_eq, hs.fd_eq] at hle
  exact hle hrises

/-- **A step keeps a bracket golden.** The inner point that is kept is where the new bracket has
its other one: `φ * φ` of the width is what `φ` of it leaves. -/
theorem narrow (hg : Valley g a₀ m b₀) :
    Golden φ g a₀ m b₀ (k + 1) (Id.run (s.narrow φ fun x => pure (g x))) := by
  have hφsq := hφ.sq
  have hwidth := hs.width
  have hshrunk : φ * (s.b - s.a) = φ ^ (k + 1) * (b₀ - a₀) := by rw [hwidth]; ring
  have hdb := (hs.d_lt_b hφ hbounds).le
  have hac := (hs.a_lt_c hφ hbounds).le
  rw [Bracket.narrow]
  split
  · next hlt =>
    have hd : s.d - s.a = φ * (s.b - s.a) := by rw [hs.d_eq]; ring
    refine ⟨rfl, ?_, rfl, hs.fc_eq, hd.trans hshrunk, hs.inner_left, hs.left,
      hs.le_d hφ hbounds hg hlt, hdb.trans hs.inner_right⟩
    change s.c = s.a + φ * (s.d - s.a)
    rw [hd, hs.c_eq]
    linear_combination (s.a - s.b) * hφsq
  · next hle =>
    have hc : s.b - s.c = φ * (s.b - s.a) := by rw [hs.c_eq]; ring
    refine ⟨?_, rfl, hs.fd_eq, rfl, hc.trans hshrunk, hs.inner_left.trans hac,
      hs.c_le hφ hbounds hg hle, hs.right, hs.inner_right⟩
    change s.d = s.b - φ * (s.b - s.c)
    rw [hc, hs.d_eq]
    linear_combination (s.b - s.a) * hφsq

/-- And so do steps in turn. -/
theorem narrowTimes (hg : Valley g a₀ m b₀) (n : ℕ) :
    Golden φ g a₀ m b₀ (k + n) (Id.run (Bracket.narrowTimes φ (fun x => pure (g x)) n s)) := by
  induction n generalizing k s with
  | zero => exact hs
  | succ n ih =>
    rw [← Nat.add_assoc, Nat.add_right_comm]
    exact ih (hs.narrow hφ hbounds hg)

end Golden

omit [IsStrictOrderedRing α] in
/-- The first bracket is golden. -/
theorem golden_start (hg : Valley g a₀ m b₀) :
    Golden φ g a₀ m b₀ 0 (Id.run (Bracket.start φ (fun x => pure (g x)) a₀ b₀)) where
  c_eq := rfl
  d_eq := rfl
  fc_eq := rfl
  fd_eq := rfl
  width := by
    rw [pow_zero, one_mul]
    rfl
  inner_left := le_refl a₀
  left := hg.left
  right := hg.right
  inner_right := le_refl b₀

/-! ## Searches -/

omit [Field α] [IsStrictOrderedRing α] in
/-- Different bounds are in order once they are sorted. -/
theorem lesser_lt_greater {lower upper : α} (hne : lower ≠ upper) :
    lesser lower upper < greater lower upper := by
  have hlesser : lesser lower upper = min lower upper := by rw [lesser, min_comm, min_def_lt]
  have hgreater : greater lower upper = max lower upper := by rw [greater, max_def_lt]
  rw [hlesser, hgreater]
  exact min_lt_max.mpr hne

/-- **A golden-section search keeps the extremum bracketed.** After any number of steps the inner
points cut the bracket in the golden ratio and are in order, the width has shrunk by that power
of the ratio, and the extremum is between the bounds, for a minimum and for a maximum. -/
theorem golden_narrowTimes (φ : α) (hφ : IsGolden φ) (kind : Extremum) (f : α → α)
    (lower upper m : α) (hne : lower ≠ upper)
    (hf : kind.IsAt f (lesser lower upper) m (greater lower upper)) (k : ℕ) :
    let rank : α → Id α := kind.rank fun x => pure (f x)
    let s := Id.run do
      let first ← Bracket.start φ rank (lesser lower upper) (greater lower upper)
      Bracket.narrowTimes φ rank k first
    (s.a < s.c ∧ s.c < s.d ∧ s.d < s.b) ∧
      s.c = s.b - φ * (s.b - s.a) ∧ s.d = s.a + φ * (s.b - s.a) ∧
      s.b - s.a = φ ^ k * (greater lower upper - lesser lower upper) ∧ s.a ≤ m ∧ m ≤ s.b := by
  intro rank s
  have hbounds := lesser_lt_greater hne
  have hs : Golden φ (fun x => kind.sign * f x) (lesser lower upper) m (greater lower upper)
      (0 + k) s := (golden_start hf.valley).narrowTimes hφ hbounds hf.valley k
  rw [Nat.zero_add] at hs
  exact ⟨⟨hs.a_lt_c hφ hbounds, hs.c_lt_d hφ hbounds, hs.d_lt_b hφ hbounds⟩, hs.c_eq, hs.d_eq,
    hs.width, hs.left, hs.right⟩

/-- The ratio over the real numbers. -/
theorem isGolden_real : IsGolden ((√5 - 1) / 2) where
  pos := by
    have hroot : 1 < √5 := (Real.lt_sqrt zero_le_one).mpr (by norm_num)
    linarith
  sq := by
    have hroot : √5 ^ 2 = 5 := Real.sq_sqrt (by norm_num)
    linear_combination hroot / 4

/-- A parabola with its top at zero, searched between bounds that are given the other way round:
five steps keep the top in the bracket. -/
theorem parabola_bracketed :
    Extremum.maximum.IsAt (fun x : ℝ => 1 - x ^ 2) (lesser 2 (-1)) 0 (greater 2 (-1)) ∧
      let rank : ℝ → Id ℝ := Extremum.maximum.rank fun x => pure (1 - x ^ 2)
      let s := Id.run do
        let first ← Bracket.start ((√5 - 1) / 2) rank (lesser 2 (-1)) (greater 2 (-1))
        Bracket.narrowTimes ((√5 - 1) / 2) rank 5 first
      s.b - s.a = ((√5 - 1) / 2) ^ 5 * (greater 2 (-1) - lesser 2 (-1)) ∧ s.a ≤ 0 ∧ 0 ≤ s.b := by
  have hlesser : lesser (2 : ℝ) (-1) = -1 := if_pos (by norm_num)
  have hgreater : greater (2 : ℝ) (-1) = 2 := if_neg (by norm_num)
  have htop : Extremum.maximum.IsAt (fun x : ℝ => 1 - x ^ 2) (lesser 2 (-1)) 0 (greater 2 (-1)) := by
    rw [hlesser, hgreater]
    refine ⟨by norm_num, by norm_num, ?_, ?_⟩
    · intro x hx y hy hxy
      have hsquare : y ^ 2 < x ^ 2 := by
        rw [sq_lt_sq, abs_of_nonpos hy.2, abs_of_nonpos (hxy.le.trans hy.2)]
        exact neg_lt_neg hxy
      linarith
    · intro x hx y hy hxy
      have hsquare : x ^ 2 < y ^ 2 := pow_lt_pow_left₀ hxy hx.1 two_ne_zero
      linarith
  obtain ⟨-, -, -, hrest⟩ := golden_narrowTimes ((√5 - 1) / 2) isGolden_real .maximum
    (fun x => 1 - x ^ 2) 2 (-1) 0 (by norm_num) htop 5
  exact ⟨htop, hrest⟩

end Calculus

end Reckon
