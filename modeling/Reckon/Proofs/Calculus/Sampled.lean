import Reckon.Calculus
import Reckon.Proofs.Evaluate.Point
import Reckon.Proofs.Number.Positive
/-!
# Calculus — methods at their first samples

What the methods come to on a template whose value is its point, and on one
that has no value anywhere. The first has a slope, an integral, a root, a limit
and an extremum, whatever positive steps and tolerances are given; the second
stops every method with its error.
-/

namespace Reckon

namespace Calculus

variable {S : Settings.Standing} {template : String} {h tol : Float} {n : Int}

/-- Sampling goes by the standing nesting bound only. -/
theorem sampler_congr {T : Settings.Standing} (hdepth : S .maxNestingDepth = T .maxNestingDepth)
    (template : String) : sampler S template = sampler T template := by
  funext x
  rw [sampler, sampler, hdepth]

/-- A real number above zero is a parameter. -/
theorem positive_real {refusal : Quantity → Error} {v : Float} (hv : 0 < v) (standing : Value) :
    positive refusal (.real v) standing = .ok (.real v) := by
  have hq : (Quantity.real v).atMost 0 = false := decide_eq_false (Number.not_le_zero hv)
  simp only [positive, Value.orElse, Value.number, Except.mapError_ok, bind, Except.bind, hq]
  rfl

/-- So is a whole one. -/
theorem positive_whole {refusal : Quantity → Error} (hn : 1 ≤ n) (standing : Value) :
    positive refusal (.whole n) standing = .ok (.whole n) := by
  have hq : (Quantity.whole n).atMost 0 = false := decide_eq_false (by omega)
  simp only [positive, Value.orElse, Value.number, Except.mapError_ok, bind, Except.bind, hq]
  rfl

/-- **What the search for a root goes by:** the positive numbers that the parameters stand
for, given ones or standing ones. -/
structure SearchesBy (S : Settings.Standing) (tolerance maxIterations : Value)
    (tol budget : Quantity) : Prop where
  tolerance : positive .toleranceNotPositive tolerance (S .rootTolerance) = .ok tol
  budget : positive .budgetNotPositive maxIterations (S .rootMaxIterations) = .ok budget

/-- The budget has to be a whole number as well. -/
theorem findRoot_eq_of_searchesBy {tolerance maxIterations : Value} {tol budget : Quantity}
    (hby : SearchesBy S tolerance maxIterations tol budget) (template : String) (guess : Float) :
    findRoot S template guess tolerance maxIterations =
      match iterations budget with
      | .ok n =>
        match newton (sampler S template) (fun x => derivative S template x) tol n 0 guess with
        | .ok ended => ended.report template budget
        | .error e => ⟨.error e, []⟩
      | .error e => ⟨.error e, []⟩ := by
  simp only [findRoot, hby.tolerance, hby.budget, bind, Except.bind]
  cases iterations budget with
  | error e => rfl
  | ok n =>
    dsimp only
    cases newton (sampler S template) (fun x => derivative S template x) tol n 0 guess <;> rfl

/-- With a positive tolerance and budget a root is searched right away. -/
theorem findRoot_eq (htol : 0 < tol) (hn : 1 ≤ n) (guess : Float) :
    findRoot S template guess (.real tol) (.whole n) =
      match newton (sampler S template) (fun x => derivative S template x) (.real tol) n.toNat 0
        guess with
      | .ok ended => ended.report template (.whole n)
      | .error e => ⟨.error e, []⟩ :=
  findRoot_eq_of_searchesBy ⟨positive_real htol _, positive_whole hn _⟩ template guess

/-- The inner samples of a function that has values everywhere have a sum. -/
theorem exists_innerSum (g : Float → Float) (lower h : Float) (count : Nat) : ∀ i total,
    ∃ v, innerSum (fun x => (.ok (g x) : Except Error Float)) lower h count i total = .ok v := by
  induction count with
  | zero => exact fun i total => ⟨total, rfl⟩
  | succ count ih => exact fun i total => ih (i + 1) _

/-- And the function has an integral. -/
theorem exists_simpson (g : Float → Float) (lower upper : Float) (n : Nat) :
    ∃ v, simpson (fun x => (.ok (g x) : Except Error Float)) lower upper n = .ok v := by
  rw [simpson]
  split
  · exact ⟨_, rfl⟩
  · obtain ⟨v, hv⟩ := exists_innerSum g lower ((upper - lower) / (evenParts n : Float))
      (evenParts n - 1) 1 (g lower + g upper)
    refine ⟨v * ((upper - lower) / (evenParts n : Float)) / (3 : Nat), ?_⟩
    simp only [bind, Except.bind, hv]
    rfl

/-! ## A template whose value is its point -/

section Identity

variable (hf : sampler S template = fun x => .ok x)

include hf

theorem derivative_of_identity (hh : 0 < h) (x : Float) :
    ∃ v, derivative S template x (.real h) = .ok v := by
  refine ⟨((x + h) - (x - h)) / (2 * h), ?_⟩
  rw [derivative, positive_real hh, hf]
  rfl

theorem integrate_of_identity : ∃ v, integrate S template 0 1 (.whole 2) = .ok v := by
  have hintegral : integrate S template 0 1 (.whole 2) = simpson (sampler S template) 0 1 2 := rfl
  rw [hintegral, hf]
  exact exists_simpson id 0 1 2

theorem findRoot_of_identity (htol : 0 < tol) (hn : 1 ≤ n) :
    (findRoot S template 0.0 (.real tol) (.whole n)).outcome = .ok 0.0 := by
  obtain ⟨budget, hbudget⟩ : ∃ m : Nat, n.toNat = m + 1 := ⟨n.toNat - 1, by omega⟩
  have habove : (Quantity.real tol).above (Float.abs 0.0) = true := decide_eq_true htol
  have hfinite : (0.0 : Float).isFinite = true := rfl
  simp only [findRoot_eq htol hn, hf, hbudget, newton, bind, Except.bind, habove, hfinite]
  rfl

theorem limit_of_identity (hh : 0 < h) (htol : 0 < tol) :
    (limit S template 0 (.real h) (.real tol)).outcome = .ok 0 := by
  have hd : domainSampler S template = fun x => .ok (some x) := by
    funext x
    rw [domainSampler, hf]
  rw [limit, positive_real hh, positive_real htol, hd]
  rfl

theorem findExtremum_of_identity (htol : 0 < tol) :
    ∃ p, findExtremum S template 0 0 "min" (.real tol) = .ok p := by
  have hbelow : (Quantity.real tol).below 0 = false := decide_eq_false (Number.not_lt_zero htol)
  have hsteps : stepCount 0 (.real tol) = .ok 0 := by
    rw [stepCount, hbelow]
    rfl
  refine ⟨((0 + 0) / 2, (0 + 0) / 2), ?_⟩
  rw [findExtremum, positive_real htol, hf]
  change (stepCount 0 (.real tol) >>= _) = _
  rw [hsteps]
  rfl

end Identity

/-! ## A template without a value -/

section Refused

variable {e : Reckon.Error} (hf : sampler S template = fun _ => .error (.sample e))

include hf

theorem derivative_of_refused (hh : 0 < h) (x : Float) :
    derivative S template x (.real h) = .error (.sample e) := by
  rw [derivative, positive_real hh, hf]
  rfl

theorem integrate_of_refused : integrate S template 0 1 (.whole 2) = .error (.sample e) := by
  rw [integrate, hf]
  rfl

theorem findRoot_of_refused (htol : 0 < tol) (hn : 1 ≤ n) :
    (findRoot S template 0.0 (.real tol) (.whole n)).outcome = .error (.sample e) := by
  obtain ⟨budget, hbudget⟩ : ∃ m : Nat, n.toNat = m + 1 := ⟨n.toNat - 1, by omega⟩
  simp only [findRoot_eq htol hn, hf, hbudget, newton, bind, Except.bind]

/-- A limit passes over the errors of points, but over no others. -/
theorem limit_of_refused (hh : 0 < h) (htol : 0 < tol) (he : e.ofPoint = false) :
    (limit S template 0 (.real h) (.real tol)).outcome = .error (.sample e) := by
  have hd : domainSampler S template = fun _ => .error (.sample e) := by
    funext x
    rw [domainSampler, hf]
    cases e with
    | divisionByZero | domain d => cases he
    | _ => rfl
  rw [limit, positive_real hh, positive_real htol, hd]
  rfl

theorem findExtremum_of_refused (htol : 0 < tol) :
    findExtremum S template 0 0 "min" (.real tol) = .error (.sample e) := by
  rw [findExtremum, positive_real htol, hf]
  rfl

end Refused

end Calculus

end Reckon
