import Reckon.Proofs.Cli.Config
/-!
# Command line — commands that tell standing settings apart

What the method of a command reads by itself shows in what the command ends
with. The variable in parentheses is computed exactly where the nesting bound
allows them (`endsWell_probe`), so that it tells any two bounds apart; and a
root of a template with a pole fails in one way for the step to the pole, in
another for any other step (`run_pole`).
-/

namespace Reckon

open Settings (Field Standing)

namespace Calculus

variable {S : Standing} {bound : Int} {k : Nat}

/-- The variable in parentheses is sampled at its points under a bound that
allows them. -/
theorem sampler_groups (hS : S .maxNestingDepth = .whole bound) (h : Allows bound k) :
    sampler S (groups k) = fun x => .ok x := by
  funext x
  rw [sampler, hS, evaluateAt_groups h]
  rfl

/-- And nowhere under any other. -/
theorem sampler_groups_refused (hS : S .maxNestingDepth = .whole bound) (h : ¬ Allows bound k) :
    ∃ e, e.ofPoint = false ∧ e.breaksOff = false ∧
      sampler S (groups k) = fun _ => .error (.sample e) := by
  obtain ⟨e, hp, hb, hx⟩ := evaluateAt_groups_refused h
  refine ⟨e, hp, hb, funext fun x => ?_⟩
  rw [sampler, hS, hx]
  rfl

end Calculus

namespace Cli

/-! ## A command that tells bounds apart -/

/-- A command that samples the variable in so many pairs of parentheses. -/
def probe (k : Nat) : CommandName → Command
  | .eval => .eval (groups k)
  | .functions => .functions
  | .derivative => .derivative (groups k) 0
  | .integrate => .integrate (groups k) 0 1 (some 2)
  | .root => .root (groups k) 0.0
  | .limit => .limit (groups k) 0
  | .extremum => .extremum (groups k) 0 0 .minimum

/-- The arguments of that command. -/
def probeArguments (k : Nat) : CommandName → List String
  | .eval | .root => [groups k]
  | .functions => []
  | .derivative | .limit => [groups k, "--at", "0"]
  | .integrate => [groups k, "--from", "0", "--to", "1", "--intervals", "2"]
  | .extremum => [groups k, "--from", "0", "--to", "0"]

theorem divide_groups (known : List Switch) (k : Nat) (rest : List String) :
    divide known true (groups k :: rest) =
      (divide known true rest).map (·.withArgument (groups k)) := by
  have hread : read known (groups k) = .plain := by
    rw [read, groups, String.toList_ofList]
    cases k <;> rfl
  rw [divide, hread]
  rfl

/-- The arguments are read as the command. -/
theorem read?_probe (k : Nat) (name : CommandName) :
    name.read? (probeArguments k name) = some (probe k name) := by
  cases name with
  | functions => rfl
  | eval | derivative | integrate | root | limit | extremum =>
    rw [CommandName.read?, probeArguments, divide_groups]
    rfl

variable {S : Standing} {cfg : Settings} {name : CommandName} {k : Nat}

/-- Where the variable in parentheses is sampled, the command has a result. -/
theorem compute_probe (hname : .maxNestingDepth ∈ name.sampled cfg) (hcfg : cfg.Accepted)
    (hf : Calculus.sampler S (groups k) = fun x => .ok x) :
    ∃ c, (probe k name).compute S cfg.standing = some (.ok c) := by
  cases name with
  | eval | functions => cases hname
  | derivative =>
    obtain ⟨v, hv⟩ := Calculus.derivative_of_identity hf hcfg.derivativeStep 0
    simp only [probe, Command.compute, Settings.standing, hv]
    exact ⟨_, rfl⟩
  | integrate =>
    obtain ⟨v, hv⟩ := Calculus.integrate_of_identity hf
    simp only [probe, Command.compute, Option.map_some, Option.getD_some, hv]
    exact ⟨_, rfl⟩
  | root =>
    have hv := Calculus.findRoot_of_identity hf hcfg.rootTolerance hcfg.rootMaxIterations
    simp only [probe, Command.compute, Settings.standing, hv]
    exact ⟨_, rfl⟩
  | limit =>
    have hv := Calculus.limit_of_identity hf hcfg.limitStep hcfg.limitTolerance
    simp only [probe, Command.compute, Settings.standing, hv]
    exact ⟨_, rfl⟩
  | extremum =>
    obtain ⟨p, hp⟩ := Calculus.findExtremum_of_identity hf hcfg.extremumTolerance
    simp only [probe, Command.compute, Settings.standing, Calculus.Extremum.word, hp]
    exact ⟨_, rfl⟩

/-- Where it is not, the command fails for the same reason. -/
theorem compute_probe_refused {e : Error} (hname : .maxNestingDepth ∈ name.sampled cfg)
    (hcfg : cfg.Accepted) (he : e.ofPoint = false)
    (hf : Calculus.sampler S (groups k) = fun _ => .error (.sample e)) :
    (probe k name).compute S cfg.standing = some (.error (.noResult (.sample e))) := by
  cases name with
  | eval | functions => cases hname
  | derivative =>
    have hv := Calculus.derivative_of_refused hf hcfg.derivativeStep 0
    simp only [probe, Command.compute, Settings.standing, hv]
    rfl
  | integrate =>
    have hv := Calculus.integrate_of_refused hf
    simp only [probe, Command.compute, Option.map_some, Option.getD_some, hv]
    rfl
  | root =>
    have hv := Calculus.findRoot_of_refused hf hcfg.rootTolerance hcfg.rootMaxIterations
    simp only [probe, Command.compute, Settings.standing, hv]
    rfl
  | limit =>
    have hv := Calculus.limit_of_refused hf hcfg.limitStep hcfg.limitTolerance he
    simp only [probe, Command.compute, Settings.standing, hv]
    rfl
  | extremum =>
    have hv := Calculus.findExtremum_of_refused hf hcfg.extremumTolerance
    simp only [probe, Command.compute, Settings.standing, Calculus.Extremum.word, hv]
    rfl

/-- Whether a run ends well. -/
def Outcome.endsWell : Outcome → Bool
  | ended status _ _ => status = 0
  | record _ => true
  | usage | broken _ => false

/-- The log takes every level that settings may hold. -/
theorem exists_passes (hcfg : cfg.Accepted) :
    ∃ b, Log.passes (cfg.standing .logLevel) = .ok b := by
  have hlevel := hcfg.logLevel
  simp only [Settings.levels, List.mem_cons, List.not_mem_nil, or_false] at hlevel
  simp only [Settings.standing]
  rcases hlevel with h | h | h | h | h <;> rw [h] <;> exact ⟨_, rfl⟩

/-- **The command ends well exactly if the bound allows the parentheses.** -/
theorem endsWell_probe {bound : Int} (hname : .maxNestingDepth ∈ name.sampled cfg)
    (hcfg : cfg.Accepted) (hS : S .maxNestingDepth = .whole bound) (json : Bool) (k : Nat) :
    (name.run S cfg.standing json (probeArguments k name)).endsWell = true ↔ Allows bound k := by
  obtain ⟨b, hb⟩ := exists_passes hcfg
  simp only [CommandName.run, hb, read?_probe, Command.report]
  -- what ends the sampling is no error of a point, which a limit would pass over
  by_cases h : Allows bound k
  · obtain ⟨c, hc⟩ := compute_probe hname hcfg (Calculus.sampler_groups hS h)
    rw [hc]
    cases json <;> simp [h, Outcome.endsWell]
  · obtain ⟨e, hp, he, hf⟩ := Calculus.sampler_groups_refused hS h
    rw [compute_probe_refused hname hcfg hp hf]
    simp [h, Failure.outcome, Calculus.Error.breaksOff, he, failed, Outcome.endsWell]

/-- Bounds of which one is accepted are told apart by what they allow. -/
theorem eq_of_allows {m n : Int} (hn : leastBound ≤ n ∧ n ≤ greatestBound)
    (h : ∀ k, Allows m k ↔ Allows n k) : m = n := by
  have hleast := hn.1
  rw [leastBound] at hleast
  have hm : Allows m n.toNat := (h _).mpr ⟨hn.1, hn.2, by omega⟩
  have hm' : Allows n m.toNat := (h _).mp ⟨hm.1, hm.2.1, by have := hm.2.2; omega⟩
  have := hm.2.2
  have := hm'.2.2
  omega

/-! ## A command that tells steps apart -/

/-- What starts with no dash is no option. -/
theorem read_plain {known : List Switch} {argument : String} {c : Char} {more : List Char}
    (h : argument.toList = c :: more) (hc : c ≠ '-') : read known argument = .plain := by
  rw [read, h]
  split
  · next heq => exact absurd (List.cons.inj heq).1 hc
  · next heq => exact absurd (List.cons.inj heq).1 hc
  · next heq => exact absurd (List.cons.inj heq).1 hc
  · rfl

/-- A template with a pole is an argument. -/
theorem read?_pole (v : Float) : CommandName.root.read? [pole v] = some (.root (pole v) 0.0) := by
  obtain ⟨c, more, hspelled, hdigit⟩ :=
    (Number.magnitude Number.greatest).exact.exists_spelled_eq_cons
  have hdash : c ≠ '-' := by
    rintro rfl
    exact absurd hdigit (by decide)
  have hread (known : List Switch) : read known (pole v) = .plain :=
    read_plain (by rw [pole, String.toList_ofList, numeral, hspelled, List.cons_append]) hdash
  rw [CommandName.read?, divide, hread]
  rfl

/-- **A root of the template fails for the step,** in one way for the step to
the pole and in another for any other. -/
theorem run_pole {bound : Int} {s v : Float} {m : Nat} {e : Int} {hm : 0 < m} (hcfg : cfg.Accepted)
    (hfin : cfg.rootTolerance.isFinite = true) (hdepth : S .maxNestingDepth = .whole bound)
    (hbound : leastBound ≤ bound ∧ bound ≤ greatestBound) (hstep : S .derivativeStep = .real s)
    (hs : 0 < s) (hv : v.toModel.unpack = .finite .positive m e hm) :
    CommandName.root.run S cfg.standing false [pole v] =
      failed (if s = v then "Division by zero is not allowed"
        else "Derivative vanished at x = 0.0") := by
  obtain ⟨b, hb⟩ := exists_passes hcfg
  have hroot := Calculus.findRoot_pole hdepth hbound hv hstep hs hcfg.rootTolerance hfin
    hcfg.rootMaxIterations
  rw [CommandName.run, hb, read?_pole]
  simp only [Command.report, Command.compute, Settings.standing, hroot]
  by_cases hsv : s = v
  · simp only [if_pos hsv]
    rfl
  · simp only [if_neg hsv]
    rfl

end Cli

end Reckon
