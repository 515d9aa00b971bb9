import Reckon.Evaluate
import Reckon.Proofs.Parser.Budget
import Reckon.Proofs.Parser.Outcome
import Reckon.Proofs.Parser.Success
/-!
# Parser — a whole token sequence

What a fresh parser makes of a token sequence (`outcome`), in terms of the
rule for an expression: that rule is never short of calls, so the answer is
its value where no token is left (`parse_eq_ok`), and its outcome where it is
known to take all of them (`parse_of_gives`).
-/

namespace Reckon

namespace Parser

variable {tokens : List Token} {bindings : Bindings}

/-- **What a token sequence comes to:** the answer of a fresh parser that is
asked for the whole of it. -/
def outcome (tokens : List Token) (bindings : Bindings) (bound : Value) : Except Error Float := do
  let parser ← Parser.new tokens bindings bound
  parser.parse.1

/-- A parser at the start of a token sequence, under a bound that is accepted. -/
def fresh (tokens : List Token) (bindings : Bindings) (bound : Nat) : Parser :=
  ⟨⟨tokens.toArray, bindings, .whole bound⟩, ⟨0, 0⟩⟩

/-- An expression comes to what its tokens come to. -/
theorem evaluateWith_eq (bindings : Bindings) (bound : Value) (expression : String) :
    evaluateWith bindings bound expression = (do
      let tokens ← tokenize (bindings.map (·.1)) expression
      outcome tokens bindings bound) := rfl

/-- A bound is refused, or the parser starts under it, whatever the bindings. -/
theorem new_cases (tokens : List Token) (bound : Value) :
    (∃ e, ∀ bindings, Parser.new tokens bindings bound = .error e) ∨
      ∃ q, ∀ bindings,
        Parser.new tokens bindings bound = .ok ⟨⟨tokens.toArray, bindings, q⟩, ⟨0, 0⟩⟩ := by
  cases hq : bound.number.mapError Error.boundNoNumber with
  | error e =>
    refine .inl ⟨e, fun bindings => ?_⟩
    simp only [Parser.new, hq]
    rfl
  | ok q =>
    by_cases hb : (q.atLeast leastBound && q.atMost greatestBound) = true
    · refine .inr ⟨q, fun bindings => ?_⟩
      simp only [Parser.new, hq, bind, Except.bind, hb]
      rfl
    · refine .inl ⟨.boundOutOfRange q, fun bindings => ?_⟩
      simp only [Parser.new, hq, bind, Except.bind, hb]
      rfl

/-- A parser is refused for its bound alone. -/
theorem new_eq_error {bound : Value} {e : Error} (h : Parser.new tokens bindings bound = .error e) :
    (∃ kind, e = .boundNoNumber kind) ∨ ∃ q, e = .boundOutOfRange q := by
  rcases Except.bind_eq_error_iff.mp h with h | ⟨q, -, h⟩
  · cases hkind : bound.number with
    | error kind =>
      rw [hkind] at h
      exact .inl ⟨kind, (Except.error.inj h).symm⟩
    | ok q =>
      rw [hkind] at h
      cases h
  · split at h
    · cases h
    · exact .inr ⟨q, (Except.error.inj h).symm⟩

/-- The bounds from 1 to 114 are accepted. -/
theorem new_eq_fresh {bound : Nat} (hleast : 1 ≤ bound) (hgreatest : bound ≤ 114) :
    Parser.new tokens bindings (.whole bound) = .ok (fresh tokens bindings bound) := by
  have : ((Quantity.whole bound).atLeast leastBound &&
      (Quantity.whole bound).atMost greatestBound) = true := by
    rw [Bool.and_eq_true]
    exact ⟨decide_eq_true (p := (1 : Int) ≤ bound) (by omega),
      decide_eq_true (p := (bound : Int) ≤ 114) (by omega)⟩
  simp only [Parser.new, Value.number, Except.mapError_ok, bind, Except.bind, this]
  rfl

/-- And no others. -/
theorem new_refused {bound : Int} (h : ¬ (leastBound ≤ bound ∧ bound ≤ greatestBound)) :
    Parser.new tokens bindings (.whole bound) = .error (.boundOutOfRange (.whole bound)) := by
  have : ((Quantity.whole bound).atLeast leastBound &&
      (Quantity.whole bound).atMost greatestBound) = false := by
    rw [Bool.and_eq_false_iff, Quantity.atLeast, Quantity.atMost, decide_eq_false_iff_not,
      decide_eq_false_iff_not]
    exact Decidable.not_and_iff_not_or_not.mp h
  simp only [Parser.new, Value.number, Except.mapError_ok, bind, Except.bind, this]
  rfl

theorem outcome_eq_parse {bound : Nat} (hleast : 1 ≤ bound) (hgreatest : bound ≤ 114) :
    outcome tokens bindings (.whole bound) = (fresh tokens bindings bound).parse.1 := by
  rw [outcome, new_eq_fresh hleast hgreatest]
  rfl

/-! ## As a step -/

/-- The step of the whole sequence: the parentheses, an expression, and that no
token is left. -/
def whole (input : Input) : Action Float := do
  value (checkParentheses input.tokens.toList)
  let v ← expression input (callLimit input.levels)
  if (← remaining input) = 0 then return v else fail .trailingTokens

/-- A parser that is asked for the whole sequence runs this step. -/
theorem parse_eq_run (p : Parser) : p.parse = p.run (whole p.input) := by
  rw [parse, run, whole, bind_apply]
  cases hb : checkParentheses p.input.tokens.toList with
  | error e => rfl
  | ok =>
    simp only [value_ok, pure_apply, bind_apply, rule, Rule.action, run]
    -- the cursor of the value tells whether tokens are left; both sides ask that
    rcases expression p.input (callLimit p.input.levels) p.cursor with ⟨v, c⟩ | ⟨e | -, c⟩
    · simp only [remaining_apply, Input.rest, List.length_drop, Array.length_toList]
      by_cases hc : c.index < p.input.tokens.size
      · rw [if_pos hc, if_neg (by omega)]
        rfl
      · rw [if_neg hc, if_pos (by omega)]
        rfl
    · rfl
    · rfl

/-- The step is never short of calls. -/
theorem whole_not_overflow (input : Input) (c c' : Cursor) :
    whole input c ≠ .error .overflow c' := by
  have hcalls := rule_not_overflow input .expression c
  rw [whole, bind_apply]
  cases checkParentheses input.tokens.toList with
  | error e => simp
  | ok =>
    simp only [value_ok, pure_apply, bind_apply]
    rw [Rule.action] at hcalls
    rcases he : expression input (callLimit input.levels) c with ⟨v, c₁⟩ | ⟨e | -, c₁⟩
    · simp only [remaining_apply]
      split <;> simp
    · simp
    · exact absurd he (hcalls c₁)

variable {p : Parser} {v : Float}

/-- A whole sequence with a value is an expression with nothing after it. -/
theorem parse_eq_ok (h : p.parse.1 = .ok v) : ∃ c,
    expression p.input (callLimit p.input.levels) p.cursor = .ok v c ∧ p.input.rest c = [] := by
  rw [parse_eq_run, run] at h
  rcases hw : whole p.input p.cursor with ⟨w, c⟩ | ⟨e | -, c⟩
  · rw [hw] at h
    obtain rfl : w = v := Except.ok.inj h
    obtain ⟨_, c₁, hcheck, hw⟩ := bind_eq_ok_iff.mp hw
    obtain ⟨-, rfl⟩ := value_eq_ok_iff.mp hcheck
    obtain ⟨u, c₂, he, hw⟩ := bind_eq_ok_iff.mp hw
    obtain ⟨left, c₃, hleft, hw⟩ := bind_eq_ok_iff.mp hw
    obtain ⟨rfl, rfl⟩ := EStateM.Result.ok.inj (remaining_apply.symm.trans hleft)
    split at hw
    · next hend =>
      obtain ⟨rfl, rfl⟩ := pure_eq_ok_iff.mp hw
      exact ⟨c₂, he, List.length_eq_zero_iff.mp hend⟩
    · cases hw
  · rw [hw] at h
    cases h
  · rw [hw] at h
    cases h

/-- A step that gives an outcome and is not short of calls answers with it. -/
theorem run_of_gives {a : Action Float} {x : Except Error Float} {n : Nat}
    (hg : Gives a p.cursor n x) (hc : ∀ c, a p.cursor ≠ .error .overflow c) : (p.run a).1 = x := by
  rw [Gives] at hg
  rw [run]
  rcases ha : a p.cursor with ⟨w, c⟩ | ⟨e | -, c⟩
  · rw [ha] at hg
    exact hg.1.symm
  · rw [ha] at hg
    exact hg.symm
  · exact absurd ha (hc c)

/-- A whole sequence whose parentheses balance comes to what the rule for an
expression gives past all its tokens. -/
theorem parse_of_gives {x : Except Error Float} {n : Nat}
    (hb : balanced p.input.tokens.toList = true)
    (hg : Gives (expression p.input (callLimit p.input.levels)) p.cursor n x)
    (hn : p.input.rest (p.cursor.forward n) = []) : p.parse.1 = x := by
  rw [parse_eq_run]
  refine run_of_gives (n := n) ?_ (whole_not_overflow p.input p.cursor)
  rw [whole, checkParentheses, if_pos hb, ← bind_pure x]
  refine Gives.look rfl (Gives.bind (n := 0) hg fun v _ => Gives.look remaining_apply ?_)
  rw [if_pos (by rw [hn]; rfl)]
  exact Gives.pure v

end Parser

end Reckon
