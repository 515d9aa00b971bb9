import Reckon.Proofs.Calculus.Sampled
import Reckon.Proofs.Calculus.Side
import Reckon.Proofs.Number.Difference
/-!
# Calculus — the limits that are found

A limit is the value at the point, the value that one side settles on where the
other breaks off, or the mean of two sides that agree (`limit_eq_ok_iff`). A side
that diverges breaks off, and does not keep the other side from being taken for
the limit (`limit_of_diverging_side`). The mean of finite sides is finite unless
their sum is too large for a double (`exists_limit_not_finite_iff`).
-/

namespace Reckon

namespace Calculus

variable {S : Settings.Standing} {template : String} {step tolerance : Value} {h t : Quantity}
variable {x tol v : Float} {steps : List Float}

/-! ## Parameters -/

/-- **What the search for a limit goes by:** the positive numbers that the parameters stand
for, given ones or standing ones. -/
structure GoesBy (S : Settings.Standing) (step tolerance : Value) (h t : Quantity) : Prop where
  step : positive .stepNotPositive step (S .limitStep) = .ok h
  tolerance : positive .toleranceNotPositive tolerance (S .limitTolerance) = .ok t

/-- Positive real numbers stand for themselves. -/
theorem GoesBy.real {h tol : Float} (hh : 0 < h) (htol : 0 < tol) :
    GoesBy S (.real h) (.real tol) (.real h) (.real tol) where
  step := positive_real hh _
  tolerance := positive_real htol _

/-- Where none are given the standing ones are taken. -/
theorem GoesBy.standing {h tol : Float} (hstep : S .limitStep = .real h)
    (htolerance : S .limitTolerance = .real tol) (hh : 0 < h) (htol : 0 < tol) :
    GoesBy S .nothing .nothing (.real h) (.real tol) where
  step := by
    rw [hstep]
    exact positive_real hh .nothing
  tolerance := by
    rw [htolerance]
    exact positive_real htol .nothing

/-- The steps that a first one leads to, which has to be a double. -/
def stepsFrom (h : Quantity) : Except Error (List Float) :=
  ((steps? h).map .ok).getD (.error .tooLarge)

theorem stepsFrom_eq_ok_iff : stepsFrom h = .ok steps ↔ steps? h = some steps := by
  rw [stepsFrom]
  cases steps? h <;> simp

/-- The tolerance has to be a double as well, once samples have been compared. -/
theorem limit_eq (hby : GoesBy S step tolerance h t) (template : String) (x : Float) :
    limit S template x step tolerance =
      match searchLimit (domainSampler S template) x (stepsFrom h)
        (t.toFloat?.getD Number.infinity) with
      | .ok ended =>
        if ended.compared && t.toFloat?.isNone then ⟨.error .tooLarge, []⟩
        else ended.report template x (t.toFloat?.getD Number.infinity)
      | .error e => ⟨.error e, []⟩ := by
  simp only [limit, hby.step, hby.tolerance, bind, Except.bind, double]
  rw [← stepsFrom.eq_def]
  cases searchLimit (domainSampler S template) x (stepsFrom h)
      (t.toFloat?.getD Number.infinity) with
  | error e => rfl
  | ok ended =>
    cases hcompared : ended.compared <;> cases t.toFloat? <;> simp [hcompared, pure, Except.pure]

/-- With a tolerance that is a double the end of the search is reported as it is. -/
theorem limit_eq_report (hby : GoesBy S step tolerance h t) (htol : t.toFloat? = some tol)
    (template : String) (x : Float) :
    limit S template x step tolerance =
      match searchLimit (domainSampler S template) x (stepsFrom h) tol with
      | .ok ended => ended.report template x tol
      | .error e => ⟨.error e, []⟩ := by
  simp [limit_eq hby, htol]

/-! ## Limits -/

theorem merge_none_left {right : Option Float} :
    merge x tol none right = .ok v ↔ right = some v := by
  cases right <;> simp [merge]

theorem merge_none_right {left : Option Float} :
    merge x tol left none = .ok v ↔ left = some v := by
  cases left <;> simp [merge]

/-- Two sides that make a limit have been compared. -/
theorem compared_of_merge {left right : Option Float} (h : merge x tol left right = .ok v) :
    (LimitSearch.sides left right).compared = true := by
  rcases left with - | left
  · rw [merge_none_left.mp h]
    rfl
  · rfl

/-- **What a limit is:** the value at the point, or what is made of the two sides. -/
theorem limit_eq_ok_iff (hby : GoesBy S step tolerance h t) :
    (limit S template x step tolerance).outcome = .ok v ↔
      HasValue (domainSampler S template) x v ∨
        (∃ sample, Lacks (domainSampler S template) x sample) ∧
          ∃ steps tol, steps? h = some steps ∧ t.toFloat? = some tol ∧ ∃ left right,
            Shows (domainSampler S template) (sidePoints x (-1) steps) tol left ∧
            Shows (domainSampler S template) (sidePoints x 1 steps) tol right ∧
            merge x tol left right = .ok v := by
  rw [limit_eq hby]
  constructor
  · intro hlimit
    cases hended : searchLimit (domainSampler S template) x (stepsFrom h)
        (t.toFloat?.getD Number.infinity) with
    | error e =>
      rw [hended] at hlimit
      cases hlimit
    | ok ended =>
      simp only [hended] at hlimit
      cases ended with
      | direct v' =>
        cases hlimit
        exact .inl (searchLimit_eq_direct_iff.mp hended)
      | diverges => split at hlimit <;> cases hlimit
      | sides left right =>
        split at hlimit
        · cases hlimit
        · next hcompared =>
          have hmerge : merge x (t.toFloat?.getD Number.infinity) left right = .ok v := hlimit
          rw [compared_of_merge hmerge, Bool.true_and, Option.isNone_iff_eq_none] at hcompared
          obtain ⟨tol, htol⟩ := Option.ne_none_iff_exists'.mp hcompared
          rw [htol] at hended hmerge
          obtain ⟨hlacks, steps, hsteps, hleft, hright⟩ := searchLimit_eq_sides_iff.mp hended
          exact .inr ⟨hlacks, steps, tol, stepsFrom_eq_ok_iff.mp hsteps, htol, left, right, hleft,
            hright, hmerge⟩
  · rintro (hvalue | ⟨hlacks, steps, tol, hsteps, htol, left, right, hleft, hright, hmerge⟩)
    · rw [searchLimit_eq_direct_iff.mpr hvalue]
      rfl
    · rw [htol, Option.getD_some, searchLimit_eq_sides_iff.mpr
        ⟨hlacks, steps, stepsFrom_eq_ok_iff.mpr hsteps, hleft, hright⟩]
      simp only [Option.isNone_some, Bool.and_false]
      exact hmerge

/-- A side that breaks off shows nothing. -/
theorem BreaksOff.eq_none {ε : Type} {f : Float → Except ε (Option Float)} {points : List Float}
    {sample w : Option Float} (h : BreaksOff f points sample) (hw : Shows f points tol w) :
    w = none := by
  cases w with
  | none => rfl
  | some v => exact absurd hw h.not_settlesOn

/-- **A side that diverges is passed over.** Where the point has no finite value and one side
diverges, the limit is what the other side settles on, and there is a limit exactly where the
other side does settle. -/
theorem limit_of_diverging_side (S : Settings.Standing) (template : String) (x : Float)
    (step tolerance : Value) (h t : Quantity) (hby : GoesBy S step tolerance h t)
    (sample : Option Float) (hlacks : Lacks (domainSampler S template) x sample)
    (steps : List Float) (hsteps : steps? h = some steps) (direction : Float)
    (hdirection : direction = 1 ∨ direction = -1)
    (hdiverges : Diverges (domainSampler S template) (sidePoints x direction steps)) (v : Float) :
    (limit S template x step tolerance).outcome = .ok v ↔ ∃ tol, t.toFloat? = some tol ∧
      SettlesOn (domainSampler S template) (sidePoints x (-direction) steps) tol v := by
  obtain ⟨w, -, hbreaks⟩ := hdiverges
  rw [limit_eq_ok_iff hby]
  constructor
  · rintro (hvalue | ⟨-, steps', tol, hsteps', htol, left, right, hleft, hright, hmerge⟩)
    · exact absurd hlacks hvalue.not_lacks
    · obtain rfl := Option.some.inj (hsteps.symm.trans hsteps')
      refine ⟨tol, htol, ?_⟩
      rcases hdirection with rfl | rfl
      · obtain rfl := hbreaks.eq_none hright
        obtain rfl := merge_none_right.mp hmerge
        exact hleft
      · obtain rfl := hbreaks.eq_none hleft
        obtain rfl := merge_none_left.mp hmerge
        exact hright
  · rintro ⟨tol, htol, hsettles⟩
    refine .inr ⟨⟨sample, hlacks⟩, steps, tol, hsteps, htol, ?_⟩
    rcases hdirection with rfl | rfl
    · exact ⟨some v, none, hsettles, ⟨_, hbreaks⟩, rfl⟩
    · exact ⟨none, some v, ⟨_, hbreaks⟩, hsettles, rfl⟩

/-- The steps that are taken where no settings say otherwise. -/
def defaultSteps : List Float :=
  1e-3 :: shrinking refinements (1e-3 / 10)

theorem goesBy_default :
    GoesBy Settings.default.standing .nothing .nothing (.real 1e-3) (.real 1e-6) :=
  .standing rfl rfl (by decide) (by decide)

/-- A template that diverges on the left of zero, and is zero on the right. -/
def leftPole : String := "max(0,-1e305/x)"

/-- Its left side comes to an infinity at the second sample, and the limit is zero. -/
theorem leftPole_limit :
    let S := Settings.default.standing
    GoesBy S .nothing .nothing (.real 1e-3) (.real 1e-6) ∧
      steps? (.real 1e-3) = some defaultSteps ∧ Lacks (domainSampler S leftPole) 0 none ∧
      Diverges (domainSampler S leftPole) (sidePoints 0 (-1) defaultSteps) ∧
      (limit S leftPole 0).outcome = .ok 0 := by
  intro S
  refine ⟨goesBy_default, rfl, ⟨by decide +kernel, rfl⟩, ⟨Number.infinity, rfl, ?_⟩,
    by decide +kernel⟩
  exact .later (v := 1e308) ⟨by decide +kernel, by decide +kernel⟩
    (.here ⟨by decide +kernel, rfl⟩)

/-- A template that diverges on both sides of zero. -/
def bothPoles : String := "1e305/x"

/-- It has no limit there, since the other side does not settle either. -/
theorem bothPoles_limit :
    let S := Settings.default.standing
    Lacks (domainSampler S bothPoles) 0 none ∧
      Diverges (domainSampler S bothPoles) (sidePoints 0 1 defaultSteps) ∧
      ∀ v, (limit S bothPoles 0).outcome ≠ .ok v := by
  intro S
  have hlacks : Lacks (domainSampler S bothPoles) 0 none := ⟨by decide +kernel, rfl⟩
  have hright : BreaksOff (domainSampler S bothPoles) (sidePoints 0 1 defaultSteps)
      (some Number.infinity) :=
    .later (v := 1e308) ⟨by decide +kernel, by decide +kernel⟩
      (.here ⟨by decide +kernel, rfl⟩)
  have hleft : BreaksOff (domainSampler S bothPoles) (sidePoints 0 (-1) defaultSteps)
      (some (-Number.infinity)) :=
    .later (v := -1e308) ⟨by decide +kernel, by decide +kernel⟩
      (.here ⟨by decide +kernel, rfl⟩)
  refine ⟨hlacks, ⟨_, rfl, hright⟩, fun v h => ?_⟩
  obtain ⟨tol, -, hsettles⟩ := (limit_of_diverging_side S bothPoles 0 .nothing .nothing
    (.real 1e-3) (.real 1e-6) goesBy_default none hlacks defaultSteps rfl 1 (.inl rfl)
    ⟨_, rfl, hright⟩ v).mp h
  exact hleft.not_settlesOn hsettles

/-! ## Limits that are not finite -/

/-- **A limit is finite unless the sum of its sides is too large.** There is a limit that is
not finite exactly where the point has no finite value, and both sides settle on values that
agree and have no finite sum. -/
theorem exists_limit_not_finite_iff (S : Settings.Standing) (template : String) (x : Float)
    (step tolerance : Value) (h t : Quantity) (hby : GoesBy S step tolerance h t) :
    (∃ v, (limit S template x step tolerance).outcome = .ok v ∧ v.isFinite = false) ↔
      (∃ sample, Lacks (domainSampler S template) x sample) ∧
        ∃ steps tol, steps? h = some steps ∧ t.toFloat? = some tol ∧ ∃ left right,
          SettlesOn (domainSampler S template) (sidePoints x (-1) steps) tol left ∧
          SettlesOn (domainSampler S template) (sidePoints x 1 steps) tol right ∧
          close left right tol = true ∧ (left + right).isFinite = false := by
  constructor
  · rintro ⟨v, hlimit, hv⟩
    rcases (limit_eq_ok_iff hby).mp hlimit with
      hvalue | ⟨hlacks, steps, tol, hsteps, htol, left, right, hleft, hright, hmerge⟩
    · rw [hvalue.2] at hv
      cases hv
    -- a side alone is the limit as it settles, so only two sides can have left the finite
    rcases left with - | left
    · obtain rfl := merge_none_left.mp hmerge
      rw [SettlesOn.isFinite hright] at hv
      cases hv
    rcases right with - | right
    · obtain rfl := Option.some.inj (merge_none_right.mp hmerge)
      rw [SettlesOn.isFinite hleft] at hv
      cases hv
    rw [merge] at hmerge
    split at hmerge
    · next hclose =>
      obtain rfl := Except.ok.inj hmerge
      rw [Number.isFinite_half] at hv
      exact ⟨hlacks, steps, tol, hsteps, htol, left, right, hleft, hright, hclose, hv⟩
    · cases hmerge
  · rintro ⟨hlacks, steps, tol, hsteps, htol, left, right, hleft, hright, hclose, hsum⟩
    refine ⟨(left + right) / 2, ?_, (Number.isFinite_half _).trans hsum⟩
    refine (limit_eq_ok_iff hby).mpr (.inr ⟨hlacks, steps, tol, hsteps, htol, some left,
      some right, hleft, hright, ?_⟩)
    rw [merge, if_pos hclose]

/-- A template with a large value everywhere but at zero. -/
def largeGap : String := "1e308+0/x"

/-- Its limit at zero is infinite. -/
theorem largeGap_limit :
    (limit Settings.default.standing largeGap 0).outcome = .ok Number.infinity ∧
      Number.infinity.isFinite = false :=
  ⟨by decide +kernel, rfl⟩

/-- Its sides settle on values without a finite sum. -/
theorem largeGap_sides :
    ∃ left right,
      SettlesOn (domainSampler Settings.default.standing largeGap)
        (sidePoints 0 (-1) defaultSteps) 1e-6 left ∧
      SettlesOn (domainSampler Settings.default.standing largeGap)
        (sidePoints 0 1 defaultSteps) 1e-6 right ∧
      (left + right).isFinite = false := by
  have hlimit : (limit Settings.default.standing largeGap 0).outcome = .ok Number.infinity := by
    decide +kernel
  obtain ⟨-, steps, tol, hsteps, htol, left, right, hleft, hright, -, hsum⟩ :=
    (exists_limit_not_finite_iff Settings.default.standing largeGap 0 .nothing .nothing
      (.real 1e-3) (.real 1e-6) goesBy_default).mp ⟨_, hlimit, rfl⟩
  obtain rfl : defaultSteps = steps := Option.some.inj hsteps
  obtain rfl : 1e-6 = tol := Option.some.inj htol
  exact ⟨left, right, hleft, hright, hsum⟩

end Calculus

end Reckon
