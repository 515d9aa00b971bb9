import Reckon.Proofs.Calculus.Iterates
import Reckon.Proofs.Evaluate.Pole
import Reckon.Proofs.Number.Difference
/-!
# Calculus — the slopes on the way to a root

A root is searched with slopes of the standing step. Under an infinite
tolerance every finite value counts as zero, and no slope is taken
(`findRoot_of_infinite`). Under a finite one the step shows: a template with a
pole at the step itself has no value where the slope is taken, and no slope
for any other step (`findRoot_pole`).
-/

namespace Reckon

namespace Calculus

open Number (greatest)

/-! ## Slopes that are not taken -/

section Unread

variable {ε : Type} {f : Float → Except ε Float} {tol : Float}

/-- An infinite tolerance is above what is finite. -/
theorem above_of_infinite (htol : 0 < tol) (hinf : tol.isFinite = false) {v : Float}
    (hv : v.isFinite = true) : (Quantity.real tol).above v.abs = true :=
  decide_eq_true (Number.lt_of_not_isFinite (Number.isFinite_abs hv) htol hinf)

/-- Then any slopes do. -/
theorem newton_of_infinite (htol : 0 < tol) (hinf : tol.isFinite = false)
    (slope slope' : Float → Except ε Float) (budget done : Nat) (x : Float) :
    newton f slope (.real tol) budget done x = newton f slope' (.real tol) budget done x := by
  cases budget with
  | zero => rfl
  | succ budget =>
    rw [newton, newton]
    cases f x with
    | error e => rfl
    | ok fx =>
      -- what is finite counts as a root at once, and what is not ends the search
      cases hfx : fx.isFinite with
      | false => simp [bind, Except.bind, hfx]
      | true => simp [bind, Except.bind, hfx, above_of_infinite htol hinf hfx]

/-- And any standing step. -/
theorem findRoot_of_infinite {S T : Settings.Standing} {template : String} (guess : Float)
    {n : Int} (htol : 0 < tol) (hinf : tol.isFinite = false) (hn : 1 ≤ n)
    (hdepth : S .maxNestingDepth = T .maxNestingDepth) :
    findRoot S template guess (.real tol) (.whole n) =
      findRoot T template guess (.real tol) (.whole n) := by
  rw [findRoot_eq htol hn, findRoot_eq htol hn, sampler_congr hdepth template,
    newton_of_infinite htol hinf _ fun x => derivative T template x]

end Unread

/-! ## Slopes that show the step -/

/-- A slope of the standing step is a central difference. -/
theorem derivative_standing {S : Settings.Standing} {s : Float}
    (hstep : S .derivativeStep = .real s) (hs : 0 < s) (template : String) (x : Float) :
    derivative S template x = centralDifference (sampler S template) x s := by
  have hpositive : positive .stepNotPositive .nothing (.real s) = .ok (.real s) :=
    positive_real hs .nothing
  rw [derivative, hstep, hpositive]
  exact bind_pure (centralDifference (sampler S template) x s)

section Pole

variable {S : Settings.Standing} {bound : Int} {v s tol : Float} {m : Nat} {e : Int} {hm : 0 < m}
variable (hdepth : S .maxNestingDepth = .whole bound)
variable (hbound : leastBound ≤ bound ∧ bound ≤ greatestBound)
variable (hv : v.toModel.unpack = .finite .positive m e hm)

include hdepth hbound hv

theorem sampler_pole (x : Float) : sampler S (pole v) x =
    if x - v == 0 then .error (.sample .divisionByZero) else .ok (greatest + 0 / (x - v)) := by
  rw [sampler, hdepth, evaluateAt_pole hv hbound]
  cases x - v == 0 <;> rfl

/-- Off its pole the template is the greatest double or no number. -/
theorem exists_sample_pole {x : Float} (hx : x ≠ v) :
    ∃ w, sampler S (pole v) x = .ok w ∧ (w = greatest ∨ w = Number.nan) :=
  ⟨_, (sampler_pole hdepth hbound hv x).trans (if_neg (by simp [Number.sub_beq_zero hv hx])),
    Number.greatest_add_zero_div _⟩

/-- **The slope at zero shows the step:** none for the step to the pole, for it
has no value there, and one that is zero or no number for any other step. -/
theorem derivative_pole (hstep : S .derivativeStep = .real s) (hs : 0 < s) :
    (s = v → derivative S (pole v) 0 = .error (.sample .divisionByZero)) ∧
      (s ≠ v → ∃ w, derivative S (pole v) 0 = .ok w ∧ (w == 0 || !w.isFinite) = true) := by
  rw [derivative_standing hstep hs, centralDifference, Number.zero_add_of_pos hs]
  refine ⟨fun h => ?_, fun h => ?_⟩
  · subst h
    rw [sampler_pole hdepth hbound hv, Number.sub_self_beq_zero hv]
    rfl
  -- neither side of zero is the pole, so both samples are the greatest double or NaN
  · obtain ⟨right, hright, hr⟩ := exists_sample_pole hdepth hbound hv h
    obtain ⟨left, hleft, hl⟩ := exists_sample_pole hdepth hbound hv (Number.zero_sub_ne hv hs)
    refine ⟨(right - left) / (2 * s), ?_, Number.vanishing_slope hr hl _⟩
    rw [hright, hleft]
    rfl

/-- **The search from zero shows it too,** where the tolerance is finite. -/
theorem findRoot_pole {n : Int} (hstep : S .derivativeStep = .real s) (hs : 0 < s)
    (htol : 0 < tol) (hfin : tol.isFinite = true) (hn : 1 ≤ n) :
    (findRoot S (pole v) 0.0 (.real tol) (.whole n)).outcome =
      .error (if s = v then .sample .divisionByZero else .flat 0.0) := by
  obtain ⟨budget, hbudget⟩ : ∃ m : Nat, n.toNat = m + 1 := ⟨n.toNat - 1, by omega⟩
  have hzero : (0.0 : Float) = 0 := rfl
  have hne : 0 ≠ v := by
    rintro rfl
    cases hv
  have hsample : sampler S (pole v) 0.0 = .ok greatest := by
    rw [sampler_pole hdepth hbound hv, hzero, Number.sub_beq_zero hv hne,
      Number.greatest_add_zero_div_neg hv]
    rfl
  -- the value at zero is too large to count as a root, so a slope is taken there
  have habove : (Quantity.real tol).above greatest.abs = false :=
    decide_eq_false (Number.not_greatest_lt hfin)
  rw [findRoot_eq htol hn, hbudget]
  obtain ⟨hpole, hother⟩ := derivative_pole hdepth hbound hv hstep hs
  by_cases hsv : s = v
  · rw [(Decides.noSlope hsample rfl habove (hpole hsv)).newton_eq, if_pos hsv]
  · obtain ⟨w, hslope, hw⟩ := hother hsv
    rw [(Decides.flat hsample rfl habove hslope hw).newton_eq, if_neg hsv]
    rfl

end Pole

end Calculus

end Reckon
