import Mathlib.Algebra.BigOperators.Field
import Mathlib.Algebra.BigOperators.Intervals
import Mathlib.Algebra.Polynomial.Derivative
import Mathlib.Algebra.Polynomial.Eval.Degree
import Mathlib.Data.Rat.Defs
import Mathlib.Tactic.FieldSimp
import Mathlib.Tactic.LinearCombination
import Mathlib.Tactic.Ring
import Reckon.Calculus.Simpson
/-!
# Calculus — Simpson's rule by panels

Read over exact fractions. The weights of the samples come from one pass over the inner points;
regrouped, they are those of panels of two parts each, that share their ends (`weighted_eq_panels`).
A panel is exact for cubics (`panel_cubic`), and so is the rule; the panels of the swapped bounds
are the same ones from the other end (`panels_reversed`), and so the integral only changes sign
(`simpson_cubic_and_swapped`).
-/

namespace Reckon

namespace Calculus

open Finset (range)
open Polynomial

variable {K : Type} [Field K]

/-! ## The weighted samples -/

/-- The inner samples, added with their weights. -/
theorem innerSum_eq (f : K → K) (lower h : K) (count i : ℕ) (total : K) :
    Id.run (innerSum (fun x => pure (f x)) lower h count i total) =
      total + ∑ j ∈ range count, weight (i + j) * f (lower + ((i + j : ℕ) : K) * h) := by
  induction count generalizing i total with
  | zero =>
    rw [Finset.sum_range_zero, add_zero]
    rfl
  | succ count ih =>
    have hstep : Id.run (innerSum (fun x => pure (f x)) lower h (count + 1) i total) =
        Id.run (innerSum (fun x => pure (f x)) lower h count (i + 1)
          (total + weight i * f (lower + (i : K) * h))) := rfl
    rw [hstep, ih, Finset.sum_range_succ', add_assoc, add_comm (_ * _)]
    simp only [Nat.add_assoc, Nat.add_comm 1, Nat.add_zero]

theorem weight_even (i : ℕ) : weight (2 * i) = 2 := if_pos (by omega)

theorem weight_odd (i : ℕ) : weight (2 * i + 1) = 4 := if_neg (by omega)

/-- **The weighted samples by panels.** Between its ends a panel has weight four; where two
panels meet, the weight two is one of each. -/
theorem weighted_eq_panels (y : ℕ → K) (k : ℕ) :
    y 0 + y (2 * (k + 1)) + ∑ j ∈ range (2 * k + 1), (weight (1 + j) : K) * y (1 + j) =
      ∑ j ∈ range (k + 1), (y (2 * j) + 4 * y (2 * j + 1) + y (2 * (j + 1))) := by
  induction k with
  | zero =>
    have hodd : weight 1 = 4 := weight_odd 0
    simp only [Finset.sum_range_succ, Finset.sum_range_zero, Nat.mul_zero, Nat.add_zero, hodd]
    push_cast
    ring
  | succ k ih =>
    have hcount : 2 * (k + 1) + 1 = 2 * k + 1 + 1 + 1 := by omega
    have heven : 1 + (2 * k + 1) = 2 * (k + 1) := by omega
    have hodd : 1 + (2 * k + 1 + 1) = 2 * (k + 1) + 1 := by omega
    rw [hcount, Finset.sum_range_succ, Finset.sum_range_succ, Finset.sum_range_succ _ (k + 1), ← ih,
      heven, hodd, weight_even, weight_odd]
    push_cast
    ring

/-- The weighted samples of so many panels, from a lower end with a step. -/
def panels (f : K → K) (lower h : K) (k : ℕ) : K :=
  ∑ j ∈ range k, (f (lower + ((2 * j : ℕ) : K) * h) + 4 * f (lower + ((2 * j + 1 : ℕ) : K) * h) +
    f (lower + ((2 * (j + 1) : ℕ) : K) * h))

/-- The number of parts is even, and not zero. -/
theorem exists_evenParts {n : ℕ} (hn : 2 ≤ n) : ∃ k, evenParts n = 2 * (k + 1) := by
  refine ⟨evenParts n / 2 - 1, ?_⟩
  rw [evenParts]
  split <;> omega

section Exact

variable [CharZero K]

/-- So many parts lead from one bound to the other. -/
theorem add_mul_div_parts (a b : K) {n : ℕ} (hn : n ≠ 0) : a + (n : K) * ((b - a) / n) = b := by
  rw [mul_div_cancel₀ _ (Nat.cast_ne_zero.mpr hn)]
  ring

/-- **The integral by panels,** between bounds that differ. -/
theorem simpson_eq_panels [BEq K] [LawfulBEq K] (f : K → K) {a b : K} (hab : a ≠ b) {n k : ℕ}
    (hk : evenParts n = 2 * (k + 1)) :
    Id.run (simpson (fun x => pure (f x)) a b n) =
      panels f a ((b - a) / (2 * (k + 1) : ℕ)) (k + 1) * ((b - a) / (2 * (k + 1) : ℕ)) / 3 := by
  have hlast := add_mul_div_parts a b (show 2 * (k + 1) ≠ 0 by omega)
  have hfirst : a + ((0 : ℕ) : K) * ((b - a) / (2 * (k + 1) : ℕ)) = a := by
    rw [Nat.cast_zero, zero_mul, add_zero]
  have hpanels := weighted_eq_panels
    (fun i => f (a + (i : K) * ((b - a) / (2 * (k + 1) : ℕ)))) k
  simp only [hfirst, hlast] at hpanels
  have hsum : Id.run (simpson (fun x => pure (f x)) a b n) =
      Id.run (innerSum (fun x => pure (f x)) a ((b - a) / (2 * (k + 1) : ℕ)) (2 * (k + 1) - 1) 1
        (f a + f b)) * ((b - a) / (2 * (k + 1) : ℕ)) / ((3 : ℕ) : K) := by
    rw [simpson, if_neg (by simpa using hab), hk]
    rfl
  rw [hsum, innerSum_eq, panels, ← hpanels, Nat.cast_ofNat]
  rfl

/-! ## Cubics -/

/-- **A panel is exact for a cubic.** -/
theorem panel_cubic {p P : K[X]} (hp : p.natDegree ≤ 3) (hP : derivative P = p) (x h : K) :
    (p.eval x + 4 * p.eval (x + h) + p.eval (x + 2 * h)) * h / 3 =
      P.eval (x + 2 * h) - P.eval x := by
  have hdegree : P.natDegree < 5 := by
    have := natDegree_derivative P
    rw [hP] at this
    omega
  have hcoeff (i : ℕ) : p.coeff i = P.coeff (i + 1) * (i + 1) := by rw [← hP, coeff_derivative]
  have hp' (x : K) := eval_eq_sum_range' (Nat.lt_succ_of_le hp) x
  have hP' (x : K) := eval_eq_sum_range' hdegree x
  simp only [hp', hP', hcoeff, Finset.sum_range_succ, Finset.sum_range_zero]
  push_cast
  ring

/-- So are panels in a row. -/
theorem panels_cubic {p P : K[X]} (hp : p.natDegree ≤ 3) (hP : derivative P = p) (lower h : K)
    (k : ℕ) :
    panels (fun x => p.eval x) lower h k * h / 3 =
      P.eval (lower + ((2 * k : ℕ) : K) * h) - P.eval lower := by
  have hpanel (j : ℕ) : (p.eval (lower + ((2 * j : ℕ) : K) * h) +
      4 * p.eval (lower + ((2 * j + 1 : ℕ) : K) * h) +
        p.eval (lower + ((2 * (j + 1) : ℕ) : K) * h)) * h / 3 =
      P.eval (lower + ((2 * (j + 1) : ℕ) : K) * h) - P.eval (lower + ((2 * j : ℕ) : K) * h) := by
    have hmiddle : lower + ((2 * j + 1 : ℕ) : K) * h = lower + ((2 * j : ℕ) : K) * h + h := by
      push_cast
      ring
    have hend : lower + ((2 * (j + 1) : ℕ) : K) * h = lower + ((2 * j : ℕ) : K) * h + 2 * h := by
      push_cast
      ring
    rw [hmiddle, hend]
    exact panel_cubic hp hP _ h
  rw [panels, Finset.sum_mul, Finset.sum_div, Finset.sum_congr rfl fun j _ => hpanel j,
    Finset.sum_range_sub fun j => P.eval (lower + ((2 * j : ℕ) : K) * h)]
  simp only [Nat.mul_zero, Nat.cast_zero, zero_mul, add_zero]

end Exact

/-! ## Swapped bounds -/

/-- **The panels from the other end** are the same ones in the other order. -/
theorem panels_reversed (f : K → K) (lower h : K) (k : ℕ) :
    panels f (lower + ((2 * k : ℕ) : K) * h) (-h) k = panels f lower h k := by
  rw [panels, panels, ← Finset.sum_range_reflect]
  refine Finset.sum_congr rfl fun j hj => ?_
  have hjk : j < k := Finset.mem_range.mp hj
  -- the point `i` steps from the upper end is the one `2 k - i` steps from the lower end
  have hpoint {i i' : ℕ} (hi : i + i' = 2 * k) :
      lower + ((2 * k : ℕ) : K) * h + (i : K) * -h = lower + (i' : K) * h := by
    rw [← hi]
    push_cast
    ring
  rw [hpoint (show 2 * (k - 1 - j) + 2 * (j + 1) = 2 * k by omega),
    hpoint (show 2 * (k - 1 - j) + 1 + (2 * j + 1) = 2 * k by omega),
    hpoint (show 2 * (k - 1 - j + 1) + 2 * j = 2 * k by omega)]
  ring

/-- **Simpson's rule is exact for cubics and changes its sign with the order of the bounds,** for
every number of parts. -/
theorem simpson_cubic_and_swapped (n : ℕ) (hn : 2 ≤ n) (a b : ℚ) :
    (∀ p P : ℚ[X], p.natDegree ≤ 3 → derivative P = p →
        Id.run (simpson (fun x => pure (p.eval x)) a b n) = P.eval b - P.eval a) ∧
      ∀ f : ℚ → ℚ, Id.run (simpson (fun x => pure (f x)) b a n) =
        -Id.run (simpson (fun x => pure (f x)) a b n) := by
  obtain ⟨k, hk⟩ := exists_evenParts hn
  rcases eq_or_ne a b with rfl | hab
  · have hnothing (f : ℚ → ℚ) : Id.run (simpson (fun x => pure (f x)) a a n) = 0 := by
      rw [simpson, if_pos (beq_self_eq_true a)]
      rfl
    exact ⟨fun p P _ _ => by rw [hnothing, sub_self], fun f => by rw [hnothing, neg_zero]⟩
  have hlast := add_mul_div_parts a b (show 2 * (k + 1) ≠ 0 by omega)
  refine ⟨fun p P hp hP => ?_, fun f => ?_⟩
  · rw [simpson_eq_panels _ hab hk, panels_cubic hp hP, hlast]
  · have hstep : (a - b) / (2 * (k + 1) : ℕ) = -((b - a) / (2 * (k + 1) : ℕ) : ℚ) := by ring
    have hreversed := panels_reversed f a ((b - a) / (2 * (k + 1) : ℕ)) (k + 1)
    rw [hlast] at hreversed
    rw [simpson_eq_panels _ hab hk, simpson_eq_panels _ hab.symm hk, hstep, hreversed]
    ring

/-- The cube over three parts, which are raised to four, and a function with a corner. -/
theorem cube_and_corner :
    Id.run (simpson (fun x : ℚ => pure (x ^ 3)) 0 2 3) = 4 ∧
      Id.run (simpson (fun x : ℚ => pure |x|) 1 (-2) 3) =
        -Id.run (simpson (fun x : ℚ => pure |x|) (-2) 1 3) := by
  obtain ⟨hcubic, -⟩ := simpson_cubic_and_swapped 3 (by omega) 0 2
  obtain ⟨-, hswapped⟩ := simpson_cubic_and_swapped 3 (by omega) (-2) 1
  have hP : derivative (C (1 / 4 : ℚ) * X ^ 4) = X ^ 3 := by
    rw [derivative_C_mul, derivative_X_pow, ← mul_assoc, ← C_mul]
    norm_num
  have hcube := hcubic (X ^ 3) (C (1 / 4) * X ^ 4) (by rw [natDegree_X_pow]) hP
  simp only [eval_pow, eval_X, eval_mul, eval_C] at hcube
  refine ⟨hcube.trans (by norm_num), hswapped fun x => |x|⟩

end Calculus

end Reckon
