import Reckon.Proofs.Calculus.Sampled
import Reckon.Proofs.Number.Infinite
/-!
# Calculus — the iterates on the way to a root

A search for a root steps from iterate to iterate (`StepsTo`, `Iterates`), and
ends at an iterate whose value counts as zero, or at the next one where that is
near (`newton_eq_found_iff`). It takes no step from a point that is not finite:
no finite step moves that point, and over an infinite one there is no slope
(`StepsTo.isFinite`). So a root is finite unless the last step leaves the
doubles and the value there still counts as zero (`exists_root_not_finite_iff`).
-/

namespace Reckon

namespace Calculus

variable {ε : Type} {f slope : Float → Except ε Float} {tol : Quantity}
variable {budget done n k : Nat} {x y z : Float}

/-! ## Iterates -/

/-- **A point counts as a root** where its value is finite and below the tolerance. -/
def CountsAsRoot (f : Float → Except ε Float) (tol : Quantity) (x : Float) : Prop :=
  ∃ fx, f x = .ok fx ∧ fx.isFinite = true ∧ tol.above fx.abs = true

/-- **One step,** from a point that is no root to where its tangent vanishes. -/
inductive StepsTo (f slope : Float → Except ε Float) (tol : Quantity) (x : Float) : Float → Prop
  | mk {fx s : Float} (hf : f x = .ok fx) (hfinite : fx.isFinite = true)
      (hlarge : tol.above fx.abs = false) (hslope : slope x = .ok s)
      (hsteep : (s == 0 || !s.isFinite) = false) : StepsTo f slope tol x (x - fx / s)

/-- **Steps in turn,** so many and none of them too short to be the last one. -/
inductive Iterates (f slope : Float → Except ε Float) (tol : Quantity) :
    Nat → Float → Float → Prop
  | start (x : Float) : Iterates f slope tol 0 x x
  | next {k : Nat} {x y z : Float} (hstep : StepsTo f slope tol x y)
      (hfar : tol.above (y - x).abs = false) (hrest : Iterates f slope tol k y z) :
      Iterates f slope tol (k + 1) x z

/-- Another step at the end. -/
theorem Iterates.snoc (h : Iterates f slope tol k x y) (hstep : StepsTo f slope tol y z)
    (hfar : tol.above (z - y).abs = false) : Iterates f slope tol (k + 1) x z := by
  induction h with
  | start x => exact .next hstep hfar (.start z)
  | next hfirst hfirst' _ ih => exact .next hfirst hfirst' (ih hstep hfar)

/-- The last step apart. -/
theorem Iterates.eq_snoc (h : Iterates f slope tol (k + 1) x z) :
    ∃ y, Iterates f slope tol k x y ∧ StepsTo f slope tol y z ∧
      tol.above (z - y).abs = false := by
  induction k generalizing x with
  | zero =>
    obtain - | ⟨hstep, hfar, ⟨⟩⟩ := h
    exact ⟨x, .start x, hstep, hfar⟩
  | succ k ih =>
    obtain - | ⟨hstep, hfar, hrest⟩ := h
    obtain ⟨y, hbefore, hlast⟩ := ih hrest
    exact ⟨y, .next hstep hfar hbefore, hlast⟩

/-! ## Where a search ends -/

/-- **A decisive iterate,** after so many steps, and what it decides: it counts as a root, or the
next one is so near that it does, or its value or its slope is of no use or has an error. -/
inductive Decides (f slope : Float → Except ε Float) (tol : Quantity) (x : Float) (steps : Nat) :
    Except ε RootSearch → Prop
  | root (hroot : CountsAsRoot f tol x) : Decides f slope tol x steps (.ok (.found x steps))
  | near {y : Float} (hstep : StepsTo f slope tol x y) (hnear : tol.above (y - x).abs = true) :
      Decides f slope tol x steps (.ok (.found y (steps + 1)))
  | notFinite {fx : Float} (hf : f x = .ok fx) (hinfinite : fx.isFinite = false) :
      Decides f slope tol x steps (.ok (.notFinite x))
  | flat {fx s : Float} (hf : f x = .ok fx) (hfinite : fx.isFinite = true)
      (hlarge : tol.above fx.abs = false) (hslope : slope x = .ok s)
      (hflat : (s == 0 || !s.isFinite) = true) : Decides f slope tol x steps (.ok (.flat x))
  | noValue {e : ε} (hf : f x = .error e) : Decides f slope tol x steps (.error e)
  | noSlope {fx : Float} {e : ε} (hf : f x = .ok fx) (hfinite : fx.isFinite = true)
      (hlarge : tol.above fx.abs = false) (hslope : slope x = .error e) :
      Decides f slope tol x steps (.error e)

variable {r : Except ε RootSearch}

/-- Every point is decisive, or a step leads on from it. -/
theorem exists_decides_or_stepsTo (f slope : Float → Except ε Float) (tol : Quantity) (x : Float)
    (steps : Nat) : (∃ r, Decides f slope tol x steps r) ∨
      ∃ y, StepsTo f slope tol x y ∧ tol.above (y - x).abs = false := by
  cases hf : f x with
  | error e => exact .inl ⟨_, .noValue hf⟩
  | ok fx =>
    cases hfinite : fx.isFinite with
    | false => exact .inl ⟨_, .notFinite hf hfinite⟩
    | true =>
    cases hsmall : tol.above fx.abs with
    | true => exact .inl ⟨_, .root ⟨fx, hf, hfinite, hsmall⟩⟩
    | false =>
    cases hslope : slope x with
    | error e => exact .inl ⟨_, .noSlope hf hfinite hsmall hslope⟩
    | ok s =>
      cases hflat : s == 0 || !s.isFinite with
      | true => exact .inl ⟨_, .flat hf hfinite hsmall hslope hflat⟩
      | false =>
      have hstep : StepsTo f slope tol x (x - fx / s) := .mk hf hfinite hsmall hslope hflat
      cases hnear : tol.above (x - fx / s - x).abs with
      | true => exact .inl ⟨_, .near hstep hnear⟩
      | false => exact .inr ⟨_, hstep, hnear⟩

/-- A search comes to what a decisive iterate decides that it starts from. -/
theorem Decides.newton_eq (h : Decides f slope tol x done r) :
    newton f slope tol (budget + 1) done x = r := by
  cases h with
  | root hroot =>
    obtain ⟨fx, hf, hfinite, hsmall⟩ := hroot
    simp [newton, bind, Except.bind, hf, hfinite, hsmall, pure, Except.pure]
  | near hstep hnear =>
    obtain ⟨hf, hfinite, hlarge, hslope, hsteep⟩ := hstep
    simp only [newton, bind, Except.bind, hf, hfinite, hlarge, hslope, hsteep, hnear]
    rfl
  | notFinite hf hinfinite =>
    simp [newton, bind, Except.bind, hf, hinfinite, pure, Except.pure]
  | flat hf hfinite hlarge hslope hflat =>
    simp only [newton, bind, Except.bind, hf, hfinite, hlarge, hslope, hflat]
    rfl
  | noValue hf => simp [newton, bind, Except.bind, hf]
  | noSlope hf hfinite hlarge hslope =>
    simp [newton, bind, Except.bind, hf, hfinite, hlarge, hslope]

/-- A search goes on over a step that is not short. -/
theorem StepsTo.newton_eq (h : StepsTo f slope tol x y) (hfar : tol.above (y - x).abs = false) :
    newton f slope tol (budget + 1) done x = newton f slope tol budget (done + 1) y := by
  obtain ⟨hf, hfinite, hlarge, hslope, hsteep⟩ := h
  simp only [newton, bind, Except.bind, hf, hfinite, hlarge, hslope, hsteep, hfar]
  rfl

/-- The first iterate is decisive, or a search goes one step on from it. -/
theorem newton_succ_eq_iff :
    newton f slope tol (budget + 1) done x = r ↔
      Decides f slope tol x done r ∨
      ∃ y, StepsTo f slope tol x y ∧ tol.above (y - x).abs = false ∧
        newton f slope tol budget (done + 1) y = r := by
  constructor
  · intro h
    rcases exists_decides_or_stepsTo f slope tol x done with ⟨r', hdecides⟩ | ⟨y, hstep, hfar⟩
    · obtain rfl := hdecides.newton_eq.symm.trans h
      exact .inl hdecides
    · exact .inr ⟨y, hstep, hfar, (hstep.newton_eq hfar).symm.trans h⟩
  · rintro (hdecides | ⟨y, hstep, hfar, h⟩)
    · exact hdecides.newton_eq
    · exact (hstep.newton_eq hfar).trans h

/-- **A search comes to what its first decisive iterate decides,** or to the end of its budget. -/
theorem newton_eq_iff :
    newton f slope tol budget done x = r ↔
      (∃ n p, n < budget ∧ Iterates f slope tol n x p ∧ Decides f slope tol p (done + n) r) ∨
      (∃ p, Iterates f slope tol budget x p) ∧ r = .ok .exhausted := by
  induction budget generalizing done x with
  | zero =>
    constructor
    · intro h
      exact .inr ⟨⟨x, .start x⟩, h.symm⟩
    · rintro (⟨n, p, hn, -⟩ | ⟨-, rfl⟩)
      · omega
      · rfl
  | succ budget ih =>
    simp only [newton_succ_eq_iff, ih]
    constructor
    · rintro (hdecides | ⟨y, hstep, hfar, ⟨n, p, hn, hrest, hdecides⟩ | ⟨⟨p, hrest⟩, rfl⟩⟩)
      · exact .inl ⟨0, x, by omega, .start x, hdecides⟩
      · rw [Nat.add_right_comm] at hdecides
        exact .inl ⟨n + 1, p, by omega, .next hstep hfar hrest, hdecides⟩
      · exact .inr ⟨⟨p, .next hstep hfar hrest⟩, rfl⟩
    · rintro (⟨n, p, hn, hiterates, hdecides⟩ | ⟨⟨p, hiterates⟩, rfl⟩)
      · cases hiterates with
        | start => exact .inl hdecides
        | @next n _ y _ hstep hfar hrest =>
          rw [← Nat.add_assoc, Nat.add_right_comm] at hdecides
          exact .inr ⟨y, hstep, hfar, .inl ⟨n, p, by omega, hrest, hdecides⟩⟩
      · obtain - | ⟨hstep, hfar, hrest⟩ := hiterates
        exact .inr ⟨_, hstep, hfar, .inr ⟨⟨p, hrest⟩, rfl⟩⟩

/-- A root is decided by an iterate that counts as one, or by a short step. -/
theorem decides_found_iff {steps : Nat} :
    Decides f slope tol x steps (.ok (.found z k)) ↔
      CountsAsRoot f tol x ∧ z = x ∧ k = steps ∨
        StepsTo f slope tol x z ∧ tol.above (z - x).abs = true ∧ k = steps + 1 := by
  constructor
  · intro h
    cases h with
    | root hroot => exact .inl ⟨hroot, rfl, rfl⟩
    | near hstep hnear => exact .inr ⟨hstep, hnear, rfl⟩
  · rintro (⟨hroot, rfl, rfl⟩ | ⟨hstep, hnear, rfl⟩)
    · exact .root hroot
    · exact .near hstep hnear

/-- **A search ends** at an iterate that counts as a root, or at the next one where the step
to it is short. -/
theorem newton_eq_found_iff :
    newton f slope tol budget done x = .ok (.found z k) ↔
      ∃ n p, n < budget ∧ Iterates f slope tol n x p ∧
        (CountsAsRoot f tol p ∧ z = p ∧ k = done + n ∨
          StepsTo f slope tol p z ∧ tol.above (z - p).abs = true ∧ k = done + n + 1) := by
  rw [newton_eq_iff]
  simp only [decides_found_iff]
  refine or_iff_left ?_
  rintro ⟨-, ⟨⟩⟩

/-- The root of a template is where its search ends. -/
theorem findRoot_eq_ok_iff {S : Settings.Standing} {template : String} {guess : Float}
    {tolerance maxIterations : Value} {budget : Quantity}
    (hby : SearchesBy S tolerance maxIterations tol budget) :
    (findRoot S template guess tolerance maxIterations).outcome = .ok z ↔
      ∃ n k, iterations budget = .ok n ∧
        newton (sampler S template) (fun x => derivative S template x) tol n 0 guess =
          .ok (.found z k) := by
  rw [findRoot_eq_of_searchesBy hby]
  constructor
  · intro h
    split at h
    · next n hn =>
      split at h
      · next ended hended =>
        cases ended with
        | found z' k =>
          cases h
          exact ⟨n, k, hn, hended⟩
        | notFinite | flat | exhausted => cases h
      · cases h
    · cases h
  · rintro ⟨n, k, hn, hfound⟩
    rw [hn]
    simp only [hfound]
    rfl

/-! ## Iterates that are not finite -/

/-- A distance that is not finite is no short step. -/
theorem not_above_abs (tol : Quantity) (hy : y.isFinite = false) : tol.above y.abs = false := by
  have hnot : ¬ y.abs < (0 : Float) := Number.not_abs_lt hy 0
  cases tol with
  | truth b | whole n =>
    simp only [Quantity.above, Quantity.integer?, Number.not_isFinite_abs hy]
    exact decide_eq_false hnot
  | real w => exact decide_eq_false (Number.not_abs_lt hy w)

section Template

variable {S : Settings.Standing} {template : String}

/-- **A slope is a central difference** over the double of its step. -/
theorem exists_centralDifference {step : Value} {s : Float}
    (h : derivative S template x step = .ok s) :
    ∃ q h, positive .stepNotPositive step (S .derivativeStep) = .ok q ∧ double q = .ok h ∧
      centralDifference (sampler S template) x h = .ok s := by
  rw [derivative] at h
  obtain ⟨q, hq, h⟩ := Except.bind_eq_ok_iff.mp h
  obtain ⟨h', hh, h⟩ := Except.bind_eq_ok_iff.mp h
  obtain ⟨s', hs, h⟩ := Except.bind_eq_ok_iff.mp h
  obtain ⟨_, -, h⟩ := Except.bind_eq_ok_iff.mp h
  cases h
  exact ⟨q, h', hq, hh, hs⟩

/-- **No step starts from a point that is not finite.** -/
theorem StepsTo.isFinite
    (h : StepsTo (sampler S template) (fun x => derivative S template x) tol x y) :
    x.isFinite = true := by
  obtain ⟨hf, hfinite, -, hslope, hsteep⟩ := h
  obtain ⟨-, h, -, -, hdifference⟩ := exists_centralDifference hslope
  by_contra hx
  rw [Bool.not_eq_true] at hx
  obtain ⟨right, hright, hdifference⟩ := Except.bind_eq_ok_iff.mp hdifference
  obtain ⟨left, hleft, hdifference⟩ := Except.bind_eq_ok_iff.mp hdifference
  cases hdifference
  cases hh : h.isFinite with
  | true =>
    -- both samples are the one at the point itself
    rw [Number.add_eq_left hx hh, hf] at hright
    rw [Number.sub_eq_left hx hh, hf] at hleft
    cases hright
    cases hleft
    rw [Number.flat_self hfinite] at hsteep
    cases hsteep
  | false =>
    rw [Number.flat_over _ (Number.not_isFinite_mul 2 hh)] at hsteep
    cases hsteep

/-- **A root is finite unless the last step leaves the doubles.** From a finite guess the root
that is found is not finite exactly where the iterates, within the budget, step from a finite
one to one that is not finite, and the value there counts as zero. -/
theorem exists_root_not_finite_iff (S : Settings.Standing) (template : String) (guess : Float)
    (tolerance maxIterations : Value) (tol budget : Quantity)
    (hby : SearchesBy S tolerance maxIterations tol budget) (hguess : guess.isFinite = true) :
    (∃ x, (findRoot S template guess tolerance maxIterations).outcome = .ok x ∧
        x.isFinite = false) ↔
      ∃ n k p x, iterations budget = .ok n ∧ k + 1 < n ∧
        Iterates (sampler S template) (fun x => derivative S template x) tol k guess p ∧
        p.isFinite = true ∧
        StepsTo (sampler S template) (fun x => derivative S template x) tol p x ∧
        x.isFinite = false ∧ CountsAsRoot (sampler S template) tol x := by
  simp only [findRoot_eq_ok_iff hby, newton_eq_found_iff]
  constructor
  · rintro ⟨x, ⟨n, _, hbudget, k, p, hk, hiterates, ⟨hroot, rfl, -⟩ | ⟨hstep, hnear, -⟩⟩, hx⟩
    · cases k with
      | zero =>
        cases hiterates
        rw [hguess] at hx
        cases hx
      | succ k =>
        obtain ⟨p, hbefore, hstep, -⟩ := hiterates.eq_snoc
        exact ⟨n, k, p, x, hbudget, hk, hbefore, hstep.isFinite, hstep, hx, hroot⟩
    -- a step that leaves the doubles is not short
    · rw [not_above_abs tol (Number.not_isFinite_sub hx p)] at hnear
      cases hnear
  · rintro ⟨n, k, p, x, hbudget, hk, hbefore, -, hstep, hx, hroot⟩
    have hfar : tol.above (x - p).abs = false := not_above_abs tol (Number.not_isFinite_sub hx p)
    exact ⟨x, ⟨n, _, hbudget, k + 1, x, hk, hbefore.snoc hstep hfar, .inl ⟨hroot, rfl, rfl⟩⟩, hx⟩

end Template

/-- A template with a peak at zero, where its slope over the standing step is too flat for a
step to end within the doubles. -/
def steepPeak : String := "max(0,x,1e308*(1-1e6*abs(x)))"

/-- The root that is found is minus infinity, where the template is zero. -/
theorem steepPeak_root :
    (findRoot Settings.default.standing steepPeak).outcome = .ok (-Number.infinity) ∧
      (-Number.infinity).isFinite = false :=
  ⟨by decide +kernel, rfl⟩

theorem searchesBy_default :
    SearchesBy Settings.default.standing .nothing .nothing (.real 1e-10) (.whole 100) where
  tolerance := positive_real (by decide) .nothing
  budget := positive_whole (by decide) .nothing

/-- The iterates leave the doubles within the budget. -/
theorem steepPeak_leaves :
    ∃ k p x, k + 1 < 100 ∧ p.isFinite = true ∧
      StepsTo (sampler Settings.default.standing steepPeak)
        (fun x => derivative Settings.default.standing steepPeak x) (.real 1e-10) p x ∧
      x.isFinite = false := by
  have hroot : (findRoot Settings.default.standing steepPeak).outcome = .ok (-Number.infinity) := by
    decide +kernel
  obtain ⟨n, k, p, x, hbudget, hk, -, hp, hstep, hx, -⟩ :=
    (exists_root_not_finite_iff Settings.default.standing steepPeak 0.0 .nothing .nothing
      (.real 1e-10) (.whole 100) searchesBy_default rfl).mp ⟨_, hroot, rfl⟩
  obtain rfl : 100 = n := Except.ok.inj hbudget
  exact ⟨k, p, x, hk, hp, hstep, hx⟩

end Calculus

end Reckon
