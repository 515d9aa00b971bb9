import Reckon.Proofs.Cli.Probe
/-!
# Command line — when a settings file governs a command

A settings file governs a command where a run under it ends and logs as it
would under standing settings of the file (`Governs`). It does so exactly if
the standing settings agree with it on what the command samples
(`governs_iff_agree_on_sampled`): the variable in parentheses tells any two
nesting bounds apart, and a template with a pole any two steps.
-/

namespace Reckon

open Settings (Field Standing)

namespace Cli

/-! ## Governed commands -/

/-- **A settings file governs a command** where a run of the command under it
ends and logs as it does where its settings are the standing ones. -/
def Governs (S cfg : Settings) (place : String → Place) (sources : Settings.Sources)
    (path : String) (name : CommandName) : Prop :=
  ∀ json args,
    let line := recordSwitch json ++ name.word :: args
    run S.standing place sources ("--config" :: path :: line) =
        run cfg.standing place sources line ∧
      logged S.standing place sources ("--config" :: path :: line) =
        logged cfg.standing place sources line

variable {S cfg : Settings} {place : String → Place} {sources : Settings.Sources}
variable {path text : String} {name : CommandName}

/-- It is a matter of the command alone. -/
theorem governs_iff (hpath : '\x00' ∉ path.toList) (hplace : place (shownPath path) = .file text)
    (hcfg : Settings.ofFile (shownPath path) (some text) sources = .ok cfg) :
    Governs S cfg place sources path name ↔ ∀ json args,
      name.run S.standing cfg.standing json args = name.run cfg.standing cfg.standing json args ∧
        name.logged S.standing cfg.standing args = name.logged cfg.standing cfg.standing args := by
  simp only [Governs, run, logged, invocation_standing,
    invocation_config S.standing hpath hplace hcfg]

/-- A command samples under the nesting bound if at all, and a root under a
finite tolerance by the step as well. -/
theorem mem_sampled {f : Field} (hf : f ∈ name.sampled cfg) : f = .maxNestingDepth ∨
    f = .derivativeStep ∧ name = .root ∧ cfg.rootTolerance.isFinite = true := by
  cases name with
  | eval | functions => cases hf
  | derivative | integrate | limit | extremum => exact .inl (List.mem_singleton.mp hf)
  | root =>
    rw [CommandName.sampled, List.mem_cons] at hf
    obtain hf | hf := hf
    · exact .inl hf
    · split at hf
      · next hfin => exact .inr ⟨List.mem_singleton.mp hf, rfl, hfin⟩
      · cases hf

variable (hcfg : cfg.Accepted)

include hcfg

/-- Where a command ends alike under two nesting bounds, they are equal. -/
theorem maxNestingDepth_eq_of_run (hname : .maxNestingDepth ∈ name.sampled cfg)
    (h : ∀ args, name.run S.standing cfg.standing false args =
      name.run cfg.standing cfg.standing false args) :
    S.maxNestingDepth = cfg.maxNestingDepth := by
  refine eq_of_allows hcfg.maxNestingDepth fun k => ?_
  rw [← endsWell_probe hname hcfg (S := S.standing) rfl false k, h,
    endsWell_probe hname hcfg rfl]

/-- Where roots end alike under two steps, they are equal. -/
theorem derivativeStep_eq_of_run (hS : S.Accepted) (hfin : cfg.rootTolerance.isFinite = true)
    (h : ∀ args, CommandName.root.run S.standing cfg.standing false args =
      CommandName.root.run cfg.standing cfg.standing false args) :
    S.derivativeStep = cfg.derivativeStep := by
  have hmessages : failed "Division by zero is not allowed" ≠
      failed "Derivative vanished at x = 0.0" := by
    intro heq
    exact absurd (Outcome.ended.inj heq).2.2 (by decide +kernel)
  have shows {v : Float} {m : Nat} {e : Int} {hm : 0 < m}
      (hv : v.toModel.unpack = .finite .positive m e hm) :
      S.derivativeStep = v ↔ cfg.derivativeStep = v := by
    have hrun := h [pole v]
    rw [run_pole hcfg hfin rfl hS.maxNestingDepth rfl hS.derivativeStep hv,
      run_pole hcfg hfin rfl hcfg.maxNestingDepth rfl hcfg.derivativeStep hv] at hrun
    by_cases hs : S.derivativeStep = v <;> by_cases hc : cfg.derivativeStep = v
    · exact iff_of_true hs hc
    · rw [if_pos hs, if_neg hc] at hrun
      exact absurd hrun hmessages
    · rw [if_neg hs, if_pos hc] at hrun
      exact absurd hrun.symm hmessages
    · exact iff_of_false hs hc
  -- steps above zero are infinite or finite; a finite one has a template with its pole
  obtain hs | ⟨m, e, hm, hs⟩ := Number.unpack_of_pos hS.derivativeStep
  · obtain hc | ⟨m, e, hm, hc⟩ := Number.unpack_of_pos hcfg.derivativeStep
    · exact Number.eq_of_unpack_eq (hs.trans hc.symm)
    · exact (shows hc).mpr rfl
  · exact ((shows hs).mp rfl).symm

omit hcfg

/-- **When a settings file governs a command:** exactly if the standing settings
agree with those of the file on what the command samples. -/
theorem governs_iff_agree_on_sampled (S cfg : Settings) (place : String → Place)
    (sources : Settings.Sources) (path text : String) (name : CommandName)
    (hpath : '\x00' ∉ path.toList) (hplace : place (shownPath path) = .file text)
    (hcfg : Settings.ofFile (shownPath path) (some text) sources = .ok cfg) (hS : S.Accepted) :
    Governs S cfg place sources path name ↔
      ∀ f ∈ name.sampled cfg, S.standing f = cfg.standing f := by
  have haccepted := Settings.accepted_of_ofFile hcfg
  rw [governs_iff hpath hplace hcfg]
  refine ⟨fun h f hf => ?_, fun h json args => ?_⟩
  · have hrun args := (h false args).1
    obtain rfl | ⟨rfl, rfl, hfin⟩ := mem_sampled hf
    · exact congrArg Value.whole (maxNestingDepth_eq_of_run haccepted hf hrun)
    · exact congrArg Value.real (derivativeStep_eq_of_run haccepted hS hfin hrun)
  · exact ⟨name.run_congr haccepted json args h, name.logged_congr haccepted args h⟩

/-! ## A file that does not govern -/

/-- A settings file with a nesting bound and a step for slopes. -/
def boundAndStep : String := "max_nesting_depth: 1\nderivative_step: 1\n"

/-- Its settings. -/
def boundAndStepSettings : Settings := { maxNestingDepth := 1, derivativeStep := 1 }

theorem read_boundAndStep : Yaml.read boundAndStep = .ok (.entries
    [(.text "max_nesting_depth", .whole 1), (.text "derivative_step", .whole 1)]) := by
  rw [Yaml.read_of_tokens [.blockMappingStart, .key, .scalar "max_nesting_depth" .plain, .value,
    .scalar "1" .plain, .key, .scalar "derivative_step" .plain, .value, .scalar "1" .plain,
    .blockEnd] (by decide +kernel) (by decide +kernel) (by decide +kernel) (by decide +kernel)]
  rfl

theorem ofFile_boundAndStep (path : String) :
    Settings.ofFile path (some boundAndStep) {} = .ok boundAndStepSettings := by
  have hresolve : (Settings.resolve
      { given := [("max_nesting_depth", .whole 1), ("derivative_step", .whole 1)] }).toOption =
        some boundAndStepSettings := by
    decide +kernel
  simp only [Settings.ofFile, Settings.Library.ofFile, read_boundAndStep, Except.mapError_ok]
  exact Except.mapError_eq_ok_iff.mpr (Except.toOption_eq_some_iff.mp hresolve)

/-- Under the file a slope is sampled beyond its nesting bound, and a root takes
slopes of the standing step although all else agrees with the file. Both runs
end well, and neither would if the settings of the file were the standing ones. -/
theorem boundAndStep_not_governing :
    let place : String → Place := fun _ => .file boundAndStep
    let otherStep : Settings := { boundAndStepSettings with derivativeStep := 1e-5 }
    Settings.ofFile "settings.yaml" (some boundAndStep) {} = .ok boundAndStepSettings ∧
      (run Settings.default.standing place {}
        ["--config", "settings.yaml", "derivative", "((x))", "--at", "0"]).endsWell = true ∧
      (run boundAndStepSettings.standing place {}
        ["derivative", "((x))", "--at", "0"]).endsWell = false ∧
      (run otherStep.standing place {}
        ["--config", "settings.yaml", "root", "x+1+0/(1-x)"]).endsWell = true ∧
      (run boundAndStepSettings.standing place {} ["root", "x+1+0/(1-x)"]).endsWell = false := by
  intro place otherStep
  have underFile (S : Settings) (name : CommandName) (args : List String) :
      run S.standing place {} ("--config" :: "settings.yaml" :: name.word :: args) =
        name.run S.standing boundAndStepSettings.standing false args := by
    have hplace : place (shownPath "settings.yaml") = .file boundAndStep := rfl
    have hcfg := ofFile_boundAndStep (shownPath "settings.yaml")
    have hasked : invocation S.standing place {}
        ("--config" :: "settings.yaml" :: name.word :: args) =
          .ok ⟨name, boundAndStepSettings.standing, false, args⟩ :=
      invocation_config S.standing (by decide) hplace hcfg false name args
    rw [run, hasked]
  refine ⟨ofFile_boundAndStep "settings.yaml", ?_, ?_, ?_, ?_⟩
  · rw [show "derivative" = CommandName.derivative.word from rfl, underFile]
    decide +kernel
  · decide +kernel
  · rw [show "root" = CommandName.root.word from rfl, underFile]
    decide +kernel
  · decide +kernel

/-- It governs the limits of a standing bound that agrees with it, whatever the
steps are, and not those of the default one. -/
theorem boundAndStep_governs_limit :
    let place : String → Place := fun _ => .file boundAndStep
    Governs { maxNestingDepth := 1 } boundAndStepSettings place {} "settings.yaml" .limit ∧
      ¬ Governs .default boundAndStepSettings place {} "settings.yaml" .limit := by
  intro place
  have governed (S : Settings) := governs_iff_agree_on_sampled S boundAndStepSettings place {}
    "settings.yaml" boundAndStep .limit (by decide) rfl (ofFile_boundAndStep _)
  have haccepted : Settings.Accepted { maxNestingDepth := 1 } :=
    { Settings.accepted_default with maxNestingDepth := by decide }
  refine ⟨(governed _ haccepted).mpr fun f hf => ?_, fun h => ?_⟩
  · obtain rfl := List.mem_singleton.mp hf
    rfl
  · exact absurd ((governed _ Settings.accepted_default).mp h _ (.head _)) (by decide)

end Cli

end Reckon
