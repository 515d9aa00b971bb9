import Reckon.Proofs.Calculus.Limit
import Reckon.Proofs.Calculus.Sampled
import Reckon.Proofs.Evaluate.Resolved
import Reckon.Proofs.Settings.Accepted
/-!
# Calculus — settings as parameters

The methods check once more what the settings have been checked for. A method
stops with nothing but the errors of its samples and those of its own search
(`failsOnly_newton`, `failsOnly_searchLimit`, `failsOnly_goldenSection`), so that
settings which were accepted are refused nowhere: neither by a parser, nor by a
method, nor by the log (`not_refused_of_built`).
-/

open Reckon.Except (FailsOnly)

namespace Reckon

namespace Calculus

/-- Whether an error refuses a setting: the nesting bound under which samples are
taken, a step, a tolerance, a budget or a number of parts. An error that hangs on
the interval or on the size of a number as well refuses none. -/
def Error.refusesSetting : Error → Bool
  | sample e => !e.ofExpression
  | stepNotPositive _ | toleranceNotPositive _ | budgetNotPositive _ | parameterNoNumber _
  | noCount _ | intervalsNoNumber _ | tooFewIntervals => true
  | _ => false

/-- **Nothing is refused.** -/
abbrev RefusesNothing {α : Type} (x : Except Error α) : Prop :=
  FailsOnly (fun e => e.refusesSetting = false) x

/-! ## Methods over a sampler -/

section Methods

variable {ε : Type} {P : ε → Prop} {f : Float → Except ε Float}

theorem failsOnly_centralDifference (hf : ∀ x, FailsOnly P (f x)) (x h : Float) :
    FailsOnly P (centralDifference f x h) :=
  (hf _).bind fun _ => (hf _).bind fun _ => .ok _

theorem failsOnly_innerSum (hf : ∀ x, FailsOnly P (f x)) (lower h : Float) (count : Nat) :
    ∀ i total, FailsOnly P (innerSum f lower h count i total) := by
  induction count with
  | zero => exact fun i total => .ok total
  | succ count ih => exact fun i total => (hf _).bind fun v => ih (i + 1) _

theorem failsOnly_simpson (hf : ∀ x, FailsOnly P (f x)) (lower upper : Float) (n : Nat) :
    FailsOnly P (simpson f lower upper n) := by
  rw [simpson]
  split
  · exact .ok _
  · refine (hf _).bind fun first => (hf _).bind fun last => ?_
    exact (failsOnly_innerSum hf _ _ _ _ _).bind fun total => .ok _

/-- An iteration stops with an error of a sample or of a slope. -/
theorem failsOnly_newton {slope : Float → Except ε Float} (hf : ∀ x, FailsOnly P (f x))
    (hs : ∀ x, FailsOnly P (slope x)) (tolerance : Quantity) (budget : Nat) :
    ∀ done x, FailsOnly P (newton f slope tolerance budget done x) := by
  induction budget with
  | zero => exact fun done x => .ok _
  | succ budget ih =>
    intro done x
    rw [newton]
    refine (hf x).bind fun fx => ?_
    split
    · exact .ok _
    split
    · exact .ok _
    refine (hs x).bind fun s => ?_
    dsimp only
    split
    · exact .ok _
    split
    · exact .ok _
    · exact ih (done + 1) _

section Limit

variable {g : Float → Except ε (Option Float)}

theorem failsOnly_finiteSamples (hg : ∀ x, FailsOnly P (g x)) (points : List Float) :
    ∀ taken, FailsOnly P (finiteSamples g taken points) := by
  induction points with
  | nil => exact fun taken => .ok _
  | cons x rest ih =>
    intro taken
    rw [finiteSamples]
    refine (hg x).bind fun v? => ?_
    cases v? with
    | none => exact .ok none
    | some v =>
      simp only
      split
      · exact ih (v :: taken)
      · exact .ok none

theorem failsOnly_approach (hg : ∀ x, FailsOnly P (g x)) (x direction : Float)
    (steps : List Float) (tolerance : Float) :
    FailsOnly P (approach g x direction steps tolerance) := by
  refine (failsOnly_finiteSamples hg _ []).bind fun taken? => ?_
  cases taken? <;> exact .ok _

/-- A search for a limit stops with an error of a sample or of its steps. -/
theorem failsOnly_searchLimit {steps : Except ε (List Float)} (hg : ∀ x, FailsOnly P (g x))
    (hsteps : FailsOnly P steps) (x tolerance : Float) :
    FailsOnly P (searchLimit g x steps tolerance) := by
  refine (hg x).bind fun here => ?_
  cases here.filter Float.isFinite with
  | some v => exact .ok _
  | none =>
    refine hsteps.bind fun steps => (failsOnly_approach hg _ _ _ _).bind fun left => ?_
    -- a side that does not settle ends the search
    cases left with
    | unsettled => exact .ok _
    | undefined | settled v =>
      refine (failsOnly_approach hg _ _ _ _).bind fun right => ?_
      cases right <;> exact .ok _

end Limit

theorem failsOnly_narrow (hf : ∀ x, FailsOnly P (f x)) (ratio : Float) (s : Bracket Float) :
    FailsOnly P (s.narrow ratio f) := by
  rw [Bracket.narrow]
  split
  · exact (hf _).bind fun _ => .ok _
  · exact (hf _).bind fun _ => .ok _

theorem failsOnly_narrowTimes (hf : ∀ x, FailsOnly P (f x)) (ratio : Float) (steps : Nat) :
    ∀ s, FailsOnly P (Bracket.narrowTimes ratio f steps s) := by
  induction steps with
  | zero => exact fun s => .ok s
  | succ steps ih => exact fun s => (failsOnly_narrow hf ratio s).bind ih

/-- A golden-section search stops with an error of a sample or of its number of
steps. -/
theorem failsOnly_goldenSection {rank : Float → Except ε Float} {steps : Except ε Nat}
    (hrank : ∀ x, FailsOnly P (rank x)) (hf : ∀ x, FailsOnly P (f x)) (hsteps : FailsOnly P steps)
    (ratio a b : Float) : FailsOnly P (goldenSection ratio rank f steps a b) := by
  have hstart : FailsOnly P (Bracket.start ratio rank a b) :=
    (hrank _).bind fun _ => (hrank _).bind fun _ => .ok _
  refine hstart.bind fun first => hsteps.bind fun count => ?_
  exact (failsOnly_narrowTimes hrank ratio count first).bind fun last => (hf _).bind fun _ => .ok _

end Methods

/-! ## Methods on a template -/

section Accepted

variable {S : Settings.Standing} {template : String} {n : Int}

/-- Samples under an accepted nesting bound do not fail for the bound. -/
theorem sampler_refusesNothing (hn : leastBound ≤ n ∧ n ≤ greatestBound)
    (hS : S .maxNestingDepth = .whole n) (x : Float) : RefusesNothing (sampler S template x) := by
  obtain ⟨hleast, hgreatest⟩ := hn
  rw [leastBound] at hleast
  rw [greatestBound] at hgreatest
  obtain ⟨bound, rfl⟩ : ∃ bound : Nat, n = bound := ⟨n.toNat, by omega⟩
  intro e h
  rw [sampler, hS] at h
  cases hv : evaluateAt (.whole bound) template x with
  | ok v =>
    rw [hv] at h
    cases h
  | error e' =>
    rw [hv] at h
    cases h
    have hexpression : e'.ofExpression = true :=
      (evaluateWith_eq_error (by omega) (by omega)).1 e' hv
    rw [Error.refusesSetting, hexpression]
    rfl

/-- A parameter that is too large for a double is not refused. -/
theorem double_refusesNothing (q : Quantity) : RefusesNothing (double q) := by
  rw [double]
  cases q.toFloat? with
  | none => exact .error rfl
  | some v => exact .ok v

variable (hf : ∀ x, RefusesNothing (sampler S template x))

include hf

theorem derivative_refusesNothing {step : Value} {h : Float} (hh : 0 < h)
    (hstep : step.orElse (S .derivativeStep) = .real h) (x : Float) :
    RefusesNothing (derivative S template x step) := by
  have hpositive : positive .stepNotPositive step (S .derivativeStep) = .ok (.real h) := by
    rw [positive, hstep]
    exact positive_real hh (.real h)
  rw [derivative, hpositive]
  refine (FailsOnly.ok _).bind fun q => (double_refusesNothing q).bind fun h => ?_
  refine (failsOnly_centralDifference hf x h).bind fun slope => ?_
  exact (double_refusesNothing _).bind fun _ => .ok slope

theorem integrate_refusesNothing (hn : 2 ≤ n) (lower upper : Float) :
    RefusesNothing (integrate S template lower upper (.whole n)) := by
  have hfew : (Quantity.whole n).lessThan 2 = false := decide_eq_false (by omega)
  have hintegral : integrate S template lower upper (.whole n) = (do
      if lower != upper then
        let _ ← double (.whole (evenParts n.toNat))
      simpson (sampler S template) lower upper n.toNat) := by
    simp only [integrate, Value.orElse, Value.number, Except.mapError_ok, Except.bind, bind, hfew]
    rfl
  have hsimpson := failsOnly_simpson hf lower upper n.toNat
  rw [hintegral]
  split
  · exact (double_refusesNothing _).bind fun _ => hsimpson
  · exact hsimpson

theorem findRoot_refusesNothing {tol h : Float} (htol : 0 < tol) (hn : 1 ≤ n) (hh : 0 < h)
    (hstep : S .derivativeStep = .real h) (guess : Float) :
    RefusesNothing (findRoot S template guess (.real tol) (.whole n)).outcome := by
  have hnothing : Value.nothing.orElse (S .derivativeStep) = .real h := hstep
  have hslope (x : Float) : RefusesNothing (derivative S template x) :=
    derivative_refusesNothing hf hh hnothing x
  have hnewton := failsOnly_newton hf hslope (.real tol) n.toNat 0 guess
  rw [findRoot_eq htol hn]
  intro e h
  cases hended : newton (sampler S template) (fun x => derivative S template x) (.real tol)
      n.toNat 0 guess with
  | error e' =>
    rw [hended] at h
    cases h
    exact hnewton e hended
  | ok ended =>
    rw [hended] at h
    cases ended <;> cases h <;> rfl

theorem limit_refusesNothing {h tol : Float} (hh : 0 < h) (htol : 0 < tol) (x : Float) :
    RefusesNothing (limit S template x (.real h) (.real tol)).outcome := by
  have hdomain (x : Float) : RefusesNothing (domainSampler S template x) := by
    have hx := hf x
    rw [domainSampler]
    split
    · exact .ok _
    · exact .ok _
    · exact .ok _
    · next e _ _ he => exact .error (hx e he)
  have hsteps : RefusesNothing (stepsFrom (.real h)) :=
    .ok (h :: shrinking refinements (h / 10))
  have hsearch := failsOnly_searchLimit hdomain hsteps x tol
  rw [limit_eq_report (.real hh htol) rfl]
  intro e he
  cases hended : searchLimit (domainSampler S template) x (stepsFrom (.real h)) tol with
  | error e' =>
    rw [hended] at he
    cases he
    exact hsearch e hended
  | ok ended =>
    rw [hended] at he
    cases ended with
    | direct v => cases he
    | diverges =>
      cases he
      rfl
    | sides left right =>
      change merge x tol left right = .error e at he
      rw [merge.eq_def] at he
      split at he
      · cases he
        rfl
      · cases he
      · cases he
      · split at he <;> cases he
        rfl

theorem findExtremum_refusesNothing {tol : Float} (htol : 0 < tol) (lower upper : Float)
    (kind : String) : RefusesNothing (findExtremum S template lower upper kind (.real tol)) := by
  have hword : RefusesNothing (Extremum.ofWord kind) := by
    rw [Extremum.ofWord]
    split
    · exact .ok _
    split
    · exact .ok _
    · exact .error rfl
  have hsteps (width : Float) (q : Quantity) : RefusesNothing (stepCount width q) := by
    rw [stepCount]
    split
    · refine (double_refusesNothing q).bind fun v => ?_
      dsimp only
      split
      · exact .error rfl
      · exact .ok _
    · exact .ok _
  rw [findExtremum, positive_real htol]
  refine hword.bind fun kind => (FailsOnly.ok _).bind fun q => ?_
  have hrank (x : Float) : RefusesNothing (kind.rank (sampler S template) x) :=
    (hf x).bind fun v => .ok _
  exact failsOnly_goldenSection hrank hf (hsteps _ q) goldenRatio _ _

end Accepted

end Calculus

/-! ## Settings that were built -/

namespace Settings

/-- **Settings that some sources give,** among them perhaps a settings file. -/
def Built (s : Settings) : Prop :=
  (∃ sources, resolve sources = .ok s) ∨ ∃ path text? sources, ofFile path text? sources = .ok s

theorem Built.accepted {s : Settings} (h : s.Built) : s.Accepted := by
  rcases h with ⟨sources, h⟩ | ⟨path, text?, sources, h⟩
  · exact accepted_of_resolve h
  · exact accepted_of_ofFile h

/-- The five levels have a rank. -/
theorem exists_passes_of_mem {level : String} (h : level ∈ levels) :
    ∃ b, Log.passes (.text level) = .ok b := by
  simp only [levels, List.mem_cons, List.not_mem_nil, or_false] at h
  rcases h with rfl | rfl | rfl | rfl | rfl <;> exact ⟨_, rfl⟩

end Settings

open Calculus in
/-- **Settings that were built are refused nowhere.** A parser takes their nesting
bound, the log their level, and no method refuses their steps, tolerances, number of
parts or budget, nor the bound under which it samples, whatever the template and the
point are, and whatever settings that were built are the standing ones. -/
theorem not_refused_of_built (standing cfg : Settings) (hstanding : standing.Built)
    (hcfg : cfg.Built) :
    (∀ tokens bindings, ∃ p, Parser.new tokens bindings (.whole cfg.maxNestingDepth) = .ok p) ∧
    (∀ template x e, derivative standing.standing template x (.real cfg.derivativeStep) =
      .error e → e.refusesSetting = false) ∧
    (∀ template lower upper e,
      integrate standing.standing template lower upper (.whole cfg.integrationIntervals) =
        .error e → e.refusesSetting = false) ∧
    (∀ template guess e,
      (findRoot standing.standing template guess (.real cfg.rootTolerance)
        (.whole cfg.rootMaxIterations)).outcome = .error e → e.refusesSetting = false) ∧
    (∀ template x e,
      (limit standing.standing template x (.real cfg.limitStep)
        (.real cfg.limitTolerance)).outcome = .error e → e.refusesSetting = false) ∧
    (∀ template lower upper kind e,
      findExtremum standing.standing template lower upper kind (.real cfg.extremumTolerance) =
        .error e → e.refusesSetting = false) ∧
    ∃ passes, Log.passes (.text cfg.logLevel) = .ok passes := by
  have hs := hstanding.accepted
  have hc := hcfg.accepted
  have hsampler (template : String) (x : Float) :
      RefusesNothing (sampler standing.standing template x) :=
    sampler_refusesNothing hs.maxNestingDepth rfl x
  refine ⟨fun tokens bindings => ?_, fun template x => ?_, fun template lower upper => ?_,
    fun template guess => ?_, fun template x => ?_, fun template lower upper kind => ?_,
    Settings.exists_passes_of_mem hc.logLevel⟩
  · obtain ⟨bound, hbound⟩ : ∃ bound : Nat, cfg.maxNestingDepth = bound :=
      ⟨cfg.maxNestingDepth.toNat, by have := hc.maxNestingDepth.1; rw [leastBound] at this; omega⟩
    have hrange := hc.maxNestingDepth
    rw [hbound, leastBound, greatestBound] at hrange
    rw [hbound]
    exact ⟨_, Parser.new_eq_fresh (by omega) (by omega)⟩
  · exact derivative_refusesNothing (hsampler template) hc.derivativeStep rfl x
  · exact integrate_refusesNothing (hsampler template) hc.integrationIntervals lower upper
  · exact findRoot_refusesNothing (hsampler template) hc.rootTolerance hc.rootMaxIterations
      hs.derivativeStep rfl guess
  · exact limit_refusesNothing (hsampler template) hc.limitStep hc.limitTolerance x
  · exact findExtremum_refusesNothing (hsampler template) hc.extremumTolerance lower upper kind

/-- Values at the edges of what the fields take, in other forms than their own. -/
def edgeValues : List (String × Value) :=
  [("log_level", .text "debug"), ("max_nesting_depth", .quantity (.truth true)),
    ("derivative_step", .text "5e-324"), ("integration_intervals", .real 2),
    ("root_tolerance", .text " inf "), ("root_max_iterations", .text "01.0")]

/-- The settings that they give. -/
def edgeSettings : Settings :=
  { logLevel := "DEBUG", maxNestingDepth := 1, derivativeStep := 5e-324,
    integrationIntervals := 2, rootTolerance := Number.infinity, rootMaxIterations := 1 }

/-- They are built, so they are refused nowhere: a root may be searched for in one step
within an infinite tolerance, and with slopes taken over the least double. -/
theorem edgeSettings_not_refused :
    edgeSettings.Built ∧ (∃ p, Parser.new [] [] (.whole 1) = .ok p) ∧
      (∀ e, (Calculus.findRoot edgeSettings.standing "1/x" 0 (.real Number.infinity)
        (.whole 1)).outcome = .error e → e.refusesSetting = false) ∧
      ∃ passes, Log.passes (.text "DEBUG") = .ok passes := by
  have hresolve : (Settings.resolve { given := edgeValues }).toOption = some edgeSettings := by
    decide +kernel
  have hbuilt : edgeSettings.Built :=
    .inl ⟨_, Except.toOption_eq_some_iff.mp hresolve⟩
  obtain ⟨hparser, -, -, hroot, -, -, hlog⟩ :=
    not_refused_of_built edgeSettings edgeSettings hbuilt hbuilt
  exact ⟨hbuilt, hparser [] [], hroot "1/x" 0, hlog⟩

end Reckon
