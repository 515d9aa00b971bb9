import Reckon.Proofs.Calculus.Iterates
/-!
# Calculus — roots within a budget

The search for a root comes to what its first decisive iterate decides, as long as that is
within the budget (`Iterates.newton_eq`). So a larger budget changes nothing but the error that
the budget is spent, and a root that is found is one by its value or by the step to it
(`findRoot_first_decisive`).
-/

namespace Reckon

namespace Calculus

variable {S : Settings.Standing} {template : String} {guess x : Float}
variable {tolerance maxIterations : Value} {tol budget : Quantity} {n : Nat}

/-- What is reported of a search, also of one that an error has stopped. -/
def reported (template : String) (budget : Quantity) :
    Except Error RootSearch → Reported Error Float
  | .ok ended => ended.report template budget
  | .error e => ⟨.error e, []⟩

/-- The slopes that are followed: those of the standing step. -/
abbrev standingSlope (S : Settings.Standing) (template : String) (x : Float) : Except Error Float :=
  derivative S template x

/-- **The search for a root is an iteration,** and reports what that comes to. -/
theorem findRoot_eq_reported (hby : SearchesBy S tolerance maxIterations tol budget)
    (hn : iterations budget = .ok n) (template : String) (guess : Float) :
    findRoot S template guess tolerance maxIterations =
      reported template budget
        (newton (sampler S template) (standingSlope S template) tol n 0 guess) := by
  rw [findRoot_eq_of_searchesBy hby, hn]
  dsimp only
  cases newton (sampler S template) (standingSlope S template) tol n 0 guess <;> rfl

/-- A search comes to what a decisive iterate decides that is within its budget, be it the last
one that the budget permits. -/
theorem Iterates.newton_eq {f slope : Float → Except Error Float} {k done : Nat} {p : Float}
    {r : Except Error RootSearch} (h : Iterates f slope tol k x p) (hk : k < n)
    (hdecides : Decides f slope tol p (done + k) r) : newton f slope tol n done x = r :=
  newton_eq_iff.mpr (.inl ⟨k, p, hk, h, hdecides⟩)

/-- What is decided is reported whatever the budget is. -/
theorem Decides.reported_eq {f slope : Float → Except Error Float} {steps : Nat}
    {r : Except Error RootSearch} (h : Decides f slope tol x steps r) (budget budget' : Quantity) :
    reported template budget r = reported template budget' r := by
  cases h <;> rfl

/-- A root that is found counts as one, or is a short step away from the last iterate. -/
theorem root_of_reported {f slope : Float → Except Error Float} {steps : Nat} {p : Float}
    {r : Except Error RootSearch} (h : Decides f slope tol p steps r)
    (hx : (reported template budget r).outcome = .ok x) :
    CountsAsRoot f tol x ∨ StepsTo f slope tol p x ∧ tol.above (x - p).abs = true := by
  cases h with
  | root hroot =>
    cases hx
    exact .inl hroot
  | near hstep hnear =>
    cases hx
    exact .inr ⟨hstep, hnear⟩
  | notFinite | flat | noValue | noSlope => cases hx

/-- A step leads to where the tangent vanishes whose slope is one of the standing step. -/
theorem StepsTo.exists_slope {p : Float}
    (hstep : StepsTo (sampler S template) (standingSlope S template) tol p x) :
    ∃ fp s q h, sampler S template p = .ok fp ∧ fp.isFinite = true ∧
      positive .stepNotPositive .nothing (S .derivativeStep) = .ok q ∧ double q = .ok h ∧
      centralDifference (sampler S template) p h = .ok s ∧ s.isFinite = true ∧
      (s == 0) = false ∧ x = p - fp / s := by
  obtain ⟨hf, hfinite, -, hslope, hsteep⟩ := hstep
  obtain ⟨q, h, hq, hh, hdifference⟩ := exists_centralDifference hslope
  rw [Bool.or_eq_false_iff, Bool.not_eq_false'] at hsteep
  exact ⟨_, _, q, h, hf, hfinite, hq, hh, hdifference, hsteep.2, hsteep.1, rfl⟩

/-- **A root is what the first decisive iterate decides, whatever budget is left.** A decisive
iterate within the budget, the last permitted one included, is what the search reports, and without
one the search has stepped over all the iterates that the budget permits and reports that it is
spent. Unless it is spent, a larger budget gives the same result and the same events. A root that is
found has a finite value below the tolerance, or is where the tangent at the last iterate vanishes,
with a finite value and a slope of the standing step that is finite and not zero, and less than
the tolerance away. -/
theorem findRoot_first_decisive (S : Settings.Standing) (template : String) (guess : Float)
    (tolerance few many : Value) (tol budget budget' : Quantity)
    (hfew : SearchesBy S tolerance few tol budget) (hmany : SearchesBy S tolerance many tol budget')
    (n m : Nat) (hn : iterations budget = .ok n) (hm : iterations budget' = .ok m) (hle : n ≤ m) :
    (∀ k p r, k < n → Iterates (sampler S template) (standingSlope S template) tol k guess p →
        Decides (sampler S template) (standingSlope S template) tol p k r →
        findRoot S template guess tolerance few = reported template budget r) ∧
      ((∃ k p r, k < n ∧ Iterates (sampler S template) (standingSlope S template) tol k guess p ∧
          Decides (sampler S template) (standingSlope S template) tol p k r ∧
          findRoot S template guess tolerance few = reported template budget r) ∨
        (∃ p, Iterates (sampler S template) (standingSlope S template) tol n guess p) ∧
          findRoot S template guess tolerance few = ⟨.error (.noConvergence budget), []⟩) ∧
      ((findRoot S template guess tolerance few).outcome ≠ .error (.noConvergence budget) →
        findRoot S template guess tolerance many = findRoot S template guess tolerance few) ∧
      ∀ x, (findRoot S template guess tolerance few).outcome = .ok x →
        CountsAsRoot (sampler S template) tol x ∨
          ∃ k p fp s q h, k < n ∧
            Iterates (sampler S template) (standingSlope S template) tol k guess p ∧
            sampler S template p = .ok fp ∧ fp.isFinite = true ∧
            positive .stepNotPositive .nothing (S .derivativeStep) = .ok q ∧ double q = .ok h ∧
            centralDifference (sampler S template) p h = .ok s ∧ s.isFinite = true ∧
            (s == 0) = false ∧ x = p - fp / s ∧ tol.above (x - p).abs = true := by
  have hsearch := findRoot_eq_reported hfew hn template guess
  have hdecisive : ∀ k p r, k < n →
      Iterates (sampler S template) (standingSlope S template) tol k guess p →
      Decides (sampler S template) (standingSlope S template) tol p k r →
      findRoot S template guess tolerance few = reported template budget r := by
    intro k p r hk hiterates hdecides
    rw [hsearch, hiterates.newton_eq hk (by rwa [Nat.zero_add])]
  refine ⟨hdecisive, ?_⟩
  obtain ⟨r, hr⟩ : ∃ r, newton (sampler S template) (standingSlope S template) tol n 0 guess = r :=
    ⟨_, rfl⟩
  rw [hr] at hsearch
  rcases newton_eq_iff.mp hr with ⟨k, p, hk, hiterates, hdecides⟩ | ⟨hpassed, rfl⟩
  · -- the iterate that decides within the smaller budget does so within the larger one
    have hlarger := hiterates.newton_eq (Nat.lt_of_lt_of_le hk hle) hdecides
    rw [Nat.zero_add] at hdecides
    refine ⟨.inl ⟨k, p, r, hk, hiterates, hdecides, hsearch⟩, fun _ => ?_, fun x hx => ?_⟩
    · rw [hsearch, findRoot_eq_reported hmany hm, hlarger]
      exact hdecides.reported_eq budget' budget
    · rw [hsearch] at hx
      rcases root_of_reported hdecides hx with hroot | ⟨hstep, hnear⟩
      · exact .inl hroot
      obtain ⟨fp, s, q, h, hf, hfinite, hq, hh, hdifference, hs, hsteep, htangent⟩ :=
        hstep.exists_slope
      exact .inr ⟨k, p, fp, s, q, h, hk, hiterates, hf, hfinite, hq, hh, hdifference, hs, hsteep,
        htangent, hnear⟩
  · have hspent : findRoot S template guess tolerance few =
        ⟨.error (.noConvergence budget), []⟩ := hsearch
    refine ⟨.inr ⟨hpassed, hspent⟩, fun hne => absurd (congrArg Reported.outcome hspent) hne,
      fun x hx => ?_⟩
    rw [hspent] at hx
    cases hx

/-- A template with the root three, to which six iterates lead from five. -/
def square : String := "x*x-9"

/-- The sixth iterate is the last that a budget of six permits, and a larger one comes to the
same. -/
theorem square_root_within_six :
    SearchesBy Settings.default.standing .nothing (.whole 6) (.real 1e-10) (.whole 6) ∧
      (findRoot Settings.default.standing square 5 .nothing (.whole 6)).outcome = .ok 3 ∧
      findRoot Settings.default.standing square 5 =
        findRoot Settings.default.standing square 5 .nothing (.whole 6) := by
  have hsix : SearchesBy Settings.default.standing .nothing (.whole 6) (.real 1e-10) (.whole 6) :=
    ⟨searchesBy_default.tolerance, positive_whole (by omega) _⟩
  have hroot : (findRoot Settings.default.standing square 5 .nothing (.whole 6)).outcome =
      .ok 3 := by
    decide +kernel
  obtain ⟨-, -, hlarger, -⟩ := findRoot_first_decisive Settings.default.standing square 5 .nothing
    (.whole 6) .nothing (.real 1e-10) (.whole 6) (.whole 100) hsix searchesBy_default 6 100 rfl rfl
    (by omega)
  refine ⟨hsix, hroot, hlarger fun hspent => ?_⟩
  rw [hroot] at hspent
  cases hspent

end Calculus

end Reckon
