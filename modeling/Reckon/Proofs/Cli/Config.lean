import Reckon.Cli.Run
import Reckon.Proofs.Calculus.Slope
import Reckon.Proofs.Settings.Accepted
/-!
# Command line — what a settings file reaches

A run under a settings file computes with the steps, tolerances and counts of
the file, and with the standing settings for what a method reads by itself:
the bound under which it samples, and the step of the slopes of a root
(`CommandName.sampled`). What it ends with and what it logs are the same under
standing settings that agree on these fields (`CommandName.run_congr`).
-/

namespace Reckon

open Settings (Field Standing)

/-! ## What a method reads by itself -/

namespace Calculus

variable {S T : Standing} (hdepth : S .maxNestingDepth = T .maxNestingDepth) (template : String)

include hdepth

theorem derivative_congr (x : Float) {step : Value}
    (hstep : step.orElse (S .derivativeStep) = step.orElse (T .derivativeStep)) :
    derivative S template x step = derivative T template x step := by
  rw [derivative, derivative, sampler_congr hdepth template, positive, positive, hstep]

theorem integrate_congr (lower upper : Float) {n : Value}
    (hn : n.orElse (S .integrationIntervals) = n.orElse (T .integrationIntervals)) :
    integrate S template lower upper n = integrate T template lower upper n := by
  rw [integrate, integrate, sampler_congr hdepth template, hn]

theorem findRoot_congr (guess : Float) {tolerance budget : Value}
    (hslope : S .derivativeStep = T .derivativeStep)
    (htol : tolerance.orElse (S .rootTolerance) = tolerance.orElse (T .rootTolerance))
    (hbudget : budget.orElse (S .rootMaxIterations) = budget.orElse (T .rootMaxIterations)) :
    findRoot S template guess tolerance budget = findRoot T template guess tolerance budget := by
  have hslopes : (fun x => derivative S template x) = fun x => derivative T template x := by
    funext x
    exact derivative_congr hdepth template x hslope
  simp only [findRoot, sampler_congr hdepth template, hslopes, positive, htol, hbudget]

theorem limit_congr (x : Float) {step tolerance : Value}
    (hstep : step.orElse (S .limitStep) = step.orElse (T .limitStep))
    (htol : tolerance.orElse (S .limitTolerance) = tolerance.orElse (T .limitTolerance)) :
    limit S template x step tolerance = limit T template x step tolerance := by
  have hsampler : domainSampler S template = domainSampler T template := by
    funext x
    rw [domainSampler, domainSampler, sampler_congr hdepth template]
  simp only [limit, hsampler, positive, hstep, htol]

theorem findExtremum_congr (lower upper : Float) (kind : String) {tolerance : Value}
    (htol : tolerance.orElse (S .extremumTolerance) = tolerance.orElse (T .extremumTolerance)) :
    findExtremum S template lower upper kind tolerance =
      findExtremum T template lower upper kind tolerance := by
  simp only [findExtremum, sampler_congr hdepth template, positive, htol]

end Calculus

namespace Cli

/-- The name of a command. -/
def Command.name : Command → CommandName
  | eval _ => .eval
  | functions => .functions
  | derivative .. => .derivative
  | integrate .. => .integrate
  | root .. => .root
  | limit .. => .limit
  | extremum .. => .extremum

/-- The fields that the method of a command reads by itself, whatever is
configured. No slope is taken under an infinite tolerance. -/
def CommandName.sampled (cfg : Settings) : CommandName → List Field
  | eval | functions => []
  | derivative | integrate | limit | extremum => [.maxNestingDepth]
  | root => .maxNestingDepth :: if cfg.rootTolerance.isFinite then [.derivativeStep] else []

/-- What a command reads from its arguments is a command of its name. -/
theorem name_of_read? {name : CommandName} {args : List String} {command : Command}
    (h : name.read? args = some command) : command.name = name := by
  rw [CommandName.read?, Option.bind_eq_some_iff] at h
  obtain ⟨a, -, h⟩ := h
  cases name with
  | eval | functions =>
    rw [CommandName.command?] at h
    split at h <;> cases h
    rfl
  | derivative | limit =>
    simp only [CommandName.command?, Option.bind_eq_bind, Option.bind_eq_some_iff] at h
    obtain ⟨_, -, _, -, h⟩ := h
    cases h
    rfl
  | integrate =>
    simp only [CommandName.command?, Option.bind_eq_bind, Option.bind_eq_some_iff] at h
    obtain ⟨_, -, _, -, _, -, _, -, h⟩ := h
    cases h
    rfl
  | root =>
    simp only [CommandName.command?, Option.bind_eq_bind, Option.bind_eq_some_iff] at h
    obtain ⟨_, -, _, -, h⟩ := h
    cases h
    rfl
  | extremum =>
    simp only [CommandName.command?, Option.bind_eq_bind, Option.bind_eq_some_iff] at h
    obtain ⟨_, -, _, -, _, -, h⟩ := h
    cases h
    rfl

variable {S T : Standing} {cfg : Settings}

/-- Settings that a file gives leave no field open. -/
theorem orElse_standing (cfg : Settings) (f : Field) (v w : Value) :
    (cfg.standing f).orElse v = (cfg.standing f).orElse w := by
  cases f <;> rfl

/-- A root is searched alike where the fields that are read agree. -/
theorem findRoot_standing_congr (hcfg : cfg.Accepted)
    (h : ∀ f ∈ CommandName.root.sampled cfg, S f = T f) (template : String) (guess : Float) :
    Calculus.findRoot S template guess (cfg.standing .rootTolerance)
        (cfg.standing .rootMaxIterations) =
      Calculus.findRoot T template guess (cfg.standing .rootTolerance)
        (cfg.standing .rootMaxIterations) := by
  have given := orElse_standing cfg
  have hdepth := h .maxNestingDepth (.head _)
  -- the step is read exactly if the tolerance is finite
  cases hfin : cfg.rootTolerance.isFinite with
  | true =>
    have hslope := h .derivativeStep (by simp [CommandName.sampled, hfin])
    exact Calculus.findRoot_congr hdepth template guess hslope (given _ _ _) (given _ _ _)
  | false =>
    exact Calculus.findRoot_of_infinite guess hcfg.rootTolerance hfin hcfg.rootMaxIterations hdepth

/-- **Under settings of a file a command reads no more than it samples** from
the standing settings. -/
theorem Command.compute_congr (command : Command) (hcfg : cfg.Accepted)
    (h : ∀ f ∈ command.name.sampled cfg, S f = T f) :
    command.compute S cfg.standing = command.compute T cfg.standing := by
  have given := orElse_standing cfg
  cases command with
  | eval expression => rfl
  | functions => rfl
  | derivative template point =>
    have hdepth := h .maxNestingDepth (.head _)
    simp only [compute, Calculus.derivative_congr hdepth template point (given _ _ _)]
  | integrate template lower upper intervals =>
    have hdepth := h .maxNestingDepth (.head _)
    have hn : ((intervals.map Value.whole).getD (cfg.standing .integrationIntervals)).orElse
          (S .integrationIntervals) =
        ((intervals.map Value.whole).getD (cfg.standing .integrationIntervals)).orElse
          (T .integrationIntervals) := by
      cases intervals <;> rfl
    simp only [compute, Calculus.integrate_congr hdepth template lower upper hn, hn]
  | root template guess =>
    simp only [compute, findRoot_standing_congr hcfg h]
  | limit template point =>
    have hdepth := h .maxNestingDepth (.head _)
    simp only [compute, Calculus.limit_congr hdepth template point (given _ _ _) (given _ _ _)]
  | extremum template lower upper kind =>
    have hdepth := h .maxNestingDepth (.head _)
    simp only [compute, Calculus.findExtremum_congr hdepth template lower upper kind.word
      (given _ _ _)]

/-- So do the events that it reports. -/
theorem Command.events_congr (command : Command) (hcfg : cfg.Accepted)
    (h : ∀ f ∈ command.name.sampled cfg, S f = T f) :
    command.events S cfg.standing = command.events T cfg.standing := by
  cases command with
  | eval | functions | derivative | integrate | extremum => rfl
  | root template guess => rw [events, events, findRoot_standing_congr hcfg h]
  | limit template point =>
    have hdepth := h .maxNestingDepth (.head _)
    have given := orElse_standing cfg
    rw [events, events, Calculus.limit_congr hdepth template point (given _ _ _) (given _ _ _)]

/-- **What a command ends with hangs on no more.** -/
theorem CommandName.run_congr (name : CommandName) (hcfg : cfg.Accepted) (json : Bool)
    (args : List String) (h : ∀ f ∈ name.sampled cfg, S f = T f) :
    name.run S cfg.standing json args = name.run T cfg.standing json args := by
  rw [CommandName.run, CommandName.run]
  cases Log.passes (cfg.standing .logLevel) with
  | error e => rfl
  | ok _ =>
    cases hr : name.read? args with
    | none => rfl
    | some command =>
      obtain rfl := name_of_read? hr
      change command.report S cfg.standing json = command.report T cfg.standing json
      rw [Command.report, Command.report, Command.compute_congr command hcfg h]

/-- Nor does what it logs. -/
theorem CommandName.logged_congr (name : CommandName) (hcfg : cfg.Accepted) (args : List String)
    (h : ∀ f ∈ name.sampled cfg, S f = T f) :
    name.logged S cfg.standing args = name.logged T cfg.standing args := by
  rw [CommandName.logged, CommandName.logged]
  rcases Log.passes (cfg.standing .logLevel) with e | logs
  · rfl
  · cases hr : name.read? args with
    | none => cases logs <;> rfl
    | some command =>
      obtain rfl := name_of_read? hr
      cases logs with
      | false => rfl
      | true => exact Command.events_congr command hcfg h

/-! ## The run -/

/-- The switch for records, where it is set. -/
def recordSwitch (json : Bool) : List String :=
  if json then ["--json"] else []

/-- A word for a command is no option. -/
theorem read_word (known : List Switch) (name : CommandName) : read known name.word = .plain := by
  cases name <;> rfl

theorem ofWord?_word (name : CommandName) : CommandName.ofWord? name.word = some name := by
  cases name <;> decide

/-- What comes before the command divides from it. -/
theorem divide_word (json : Bool) (name : CommandName) (args : List String) :
    divide globalSwitches false (recordSwitch json ++ name.word :: args) =
      some ⟨if json then [("json", "")] else [], name.word :: args⟩ := by
  have hword : divide globalSwitches false (name.word :: args) = some ⟨[], name.word :: args⟩ := by
    rw [divide, read_word]
    rfl
  cases json with
  | false => exact hword
  | true =>
    change (divide globalSwitches false (name.word :: args)).map (·.withOption "json" "") = _
    rw [hword]
    rfl

theorem divide_config (path : String) (rest : List String) :
    divide globalSwitches false ("--config" :: path :: rest) =
      (divide globalSwitches false rest).map (·.withOption "config" path) := rfl

variable {place : String → Place} {sources : Settings.Sources} {path text : String}

/-- A run without a settings file goes by the standing settings. -/
theorem invocation_standing (S : Standing) (json : Bool) (name : CommandName)
    (args : List String) :
    invocation S place sources (recordSwitch json ++ name.word :: args) =
      .ok ⟨name, S, json, args⟩ := by
  rw [invocation, divide_word]
  cases json <;>
    simp [Arguments.value?, Arguments.has, ofWord?_word, configuredBy, bind, Except.bind, pure,
      Except.pure]

/-- A run under a settings file goes by its settings. -/
theorem invocation_config (S : Standing) (hpath : '\x00' ∉ path.toList)
    (hplace : place (shownPath path) = .file text)
    (hcfg : Settings.ofFile (shownPath path) (some text) sources = .ok cfg) (json : Bool)
    (name : CommandName) (args : List String) :
    invocation S place sources ("--config" :: path :: (recordSwitch json ++ name.word :: args)) =
      .ok ⟨name, cfg.standing, json, args⟩ := by
  have hsettings : configuredBy S place sources (some path) = .ok cfg.standing := by
    simp only [configuredBy, Option.map_some, hplace, hcfg]
  have hlast : [("json", ""), ("config", path)].lookup "config" = some path := rfl
  rw [invocation, divide_config, divide_word]
  cases json <;> simp [Arguments.value?, Arguments.has, Arguments.withOption, ofWord?_word,
    hsettings, hpath, hlast, bind, Except.bind, pure, Except.pure]

end Cli

end Reckon
