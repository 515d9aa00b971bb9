import Reckon.Proofs.Grammar.Reading
import Reckon.Proofs.Parser.Failure
import Reckon.Proofs.Parser.Rounds
/-!
# Parser — the rules without a limit

The rules of the grammar call each other as often as they have to, and their loops go on until a
round ends them. As equations (`Rules.opened`) they have exactly one solution, and a parser that may
have so many calls open at a time comes to what the solution does as far as its calls go
(`approximates`). Since it never runs short of seven calls for each nested part and six around them,
no run of the rules has more calls open, however long the input is (`parse_unlimited`).
-/

namespace Reckon

namespace Parser

open Grammar

variable {α : Type} {input : Input} {c : Cursor} {calls : Nat} {rs : Rules}

/-- A run that is short of calls. -/
def Stop.isShort (stop : Stop) : Prop :=
  stop = .overflow

/-- An input is like itself, but for runs that are short of calls. -/
theorem alike_self (input : Input) : Alike Stop.isShort (fun _ => False) Eq input input :=
  .of_eq rfl (Nat.le_refl _) (.inl rfl) rfl fun _ => .inl rfl

/-! ## Solutions -/

/-- **The rules open the next call:** with one call more they are what they call with so many. The
loops go on until a round ends them as they are. -/
theorem opened_limited (input : Input) (calls : Nat) :
    (limited input calls).opened input = { limited input (calls + 1) with
      sums := (limited input calls).sums
      products := (limited input calls).products
      items := (limited input calls).items } := by
  have honward := rulesOnward input calls
  refine Rules.ext rfl rfl ?_ rfl ?_ rfl rfl rfl ?_ ?_
  · exact (chainRound_eq_iff honward.multiplicative).mpr rfl
  · exact (chainRound_eq_iff honward.unary).mpr rfl
  · funext name
    exact opened_limited_arguments input calls name
  · exact (itemsRound_eq_iff honward.expression).mpr rfl

/-- The loops of a solution go on until a round ends them. -/
theorem loops_of_opened_eq (hrs : rs.opened input = rs) :
    chainRound input 2 rs.multiplicative rs.sums = rs.sums ∧
      chainRound input 3 rs.unary rs.products = rs.products ∧
      itemsRound input rs.expression rs.items = rs.items :=
  ⟨congrArg Rules.sums hrs, congrArg Rules.products hrs, congrArg Rules.items hrs⟩

/-- The loops of a solution do what those of a parser do, where what they repeat does. -/
theorem chain_approximates {precedence : Nat} {operand₁ operand₂ : Action Float}
    {again : Float → Action Float} (hagain : chainRound input precedence operand₂ again = again)
    (ho : ∀ c, Lockstep Stop.isShort (fun _ => False) Eq (operand₁ c) (operand₂ c))
    (honward : ∀ c, Onward operand₁ c) {v w : Float} (c : Cursor) (hv : v = w) :
    Lockstep Stop.isShort (fun _ => False) Eq
      (allRounds input (chain input precedence operand₁) v c) (again w c) := by
  subst hv
  exact (countedLoop_chain input precedence operand₁).inStep
    (chainRound_inStep ho honward input precedence) hagain v c

theorem items_approximates {item₁ item₂ : Action Float} {again : Unit → Action (List Float)}
    (hagain : itemsRound input item₂ again = again)
    (hi : ∀ c, Lockstep Stop.isShort (fun _ => False) Eq (item₁ c) (item₂ c))
    (honward : ∀ c, Onward item₁ c) (c : Cursor) :
    Lockstep Stop.isShort (fun _ => False) (Related Eq)
      (allRounds input (fun count _ => items input item₁ count) () c) (again () c) :=
  ((countedLoop_items input item₁).inStep (itemsRound_inStep hi honward input) hagain () c).imp
    fun _ _ => related_eq_iff.mpr

/-- **A parser comes to what a solution does,** as far as its calls go. -/
theorem approximates (hrs : rs.opened input = rs) (calls : Nat) :
    RulesInStep Stop.isShort (fun _ => False) Eq (limited input calls) rs := by
  obtain ⟨hsums, hproducts, hitems⟩ := loops_of_opened_eq hrs
  induction calls with
  | zero =>
    -- without a call the parser is short of calls at once
    have honward := rulesOnward input 0
    exact {
      expression := fun _ => .left rfl
      additive := fun _ => .left rfl
      sums := chain_approximates hsums (fun _ => .left rfl) honward.multiplicative
      multiplicative := fun _ => .left rfl
      products := chain_approximates hproducts (fun _ => .left rfl) honward.unary
      unary := fun _ => .left rfl
      exponent := fun _ => .left rfl
      primary := fun _ => .left rfl
      arguments := fun _ _ => .left rfl
      items := items_approximates hitems (fun _ => .left rfl) honward.expression }
  | succ calls r =>
    -- a call more opens the rules of the parser, and the solution is what it is when opened
    have honward := rulesOnward input (calls + 1)
    have h := alike_self input
    have hexpression : rs.expression = rs.additive := (congrArg Rules.expression hrs).symm
    have hadditive := r.additive_opened input input
    have hmultiplicative := r.multiplicative_opened input input
    have hunary := r.unary_opened h
    have hexponent := r.exponent_opened h
    have hprimary := r.primary_opened h
    have harguments := r.arguments_opened h
    rw [hrs] at hadditive hmultiplicative hunary hexponent hprimary harguments
    exact {
      expression := hexpression ▸ r.additive
      additive := hadditive
      sums := chain_approximates hsums hmultiplicative honward.multiplicative
      multiplicative := hmultiplicative
      products := chain_approximates hproducts hunary honward.unary
      unary := hunary
      exponent := hexponent
      primary := hprimary
      arguments := fun name c => opened_limited_arguments input calls name ▸ harguments name c
      items := items_approximates hitems (hexpression ▸ r.additive) honward.expression }

/-! ## Enough calls -/

/-- So many calls are enough for every rule at every cursor. -/
theorem affords_of_le {frames : Nat} (h : 7 * input.levels + frames ≤ calls) (c : Cursor) :
    Affords input calls frames c := by
  rw [Affords]
  omega

/-- A rule that is not short of calls does what it does with more of them, or without a limit. -/
theorem eq_of_bounded {a b : Action α} (hb : ∀ c, Bounded a c)
    (h : ∀ c, Lockstep Stop.isShort (fun _ => False) Eq (a c) (b c)) : b = a := by
  funext c
  refine Lockstep.eq_of_not_left (h c) ?_
  rintro stop c' rfl hshort
  have hbounded := hb c
  rw [Bounded, hshort] at hbounded
  exact hbounded rfl

/-- **Enough calls are enough:** rules in lockstep with those of a parser that is not short of
calls are the same rules, but for the loops. -/
theorem eq_limited_of_inStep (h : 7 * input.levels + 7 ≤ calls)
    (r : RulesInStep Stop.isShort (fun _ => False) Eq (limited input calls) rs) :
    { rs with
      sums := (limited input calls).sums
      products := (limited input calls).products
      items := (limited input calls).items } = limited input calls := by
  have bounded := rulesBounded input calls
  have enough (frames : Nat) (hframes : frames ≤ 7) (c : Cursor) : Affords input calls frames c :=
    affords_of_le (by omega) c
  refine Rules.ext ?_ ?_ rfl ?_ rfl ?_ ?_ ?_ ?_ rfl
  · exact eq_of_bounded (fun c => bounded.expression (enough 6 (by omega) c)) r.expression
  · exact eq_of_bounded (fun c => bounded.additive (enough 5 (by omega) c)) r.additive
  · exact eq_of_bounded (fun c => bounded.multiplicative (enough 4 (by omega) c)) r.multiplicative
  · exact eq_of_bounded (fun c => bounded.unary (enough 3 (by omega) c)) r.unary
  · exact eq_of_bounded (fun c => bounded.exponent (enough 2 (by omega) c)) r.exponent
  · exact eq_of_bounded (fun c => bounded.primary (enough 1 (by omega) c)) r.primary
  · funext name
    exact eq_of_bounded (fun c => bounded.arguments name (enough 7 (by omega) c)) fun c =>
      (r.arguments name c).imp fun _ _ => related_eq_iff.mp

/-- **The rules of a parser with enough calls solve the equations.** -/
theorem opened_limited_eq (h : 7 * input.levels + 7 ≤ calls) :
    (limited input calls).opened input = limited input calls := by
  have hmore : RulesInStep Stop.isShort (fun _ => False) Eq (limited input calls)
      (limited input (calls + 1)) := rulesInStep (alike_self input) (Nat.le_succ calls)
  exact (opened_limited input calls).trans (eq_limited_of_inStep h hmore)

/-- **And nothing else solves them.** -/
theorem eq_limited_of_opened_eq (hrs : rs.opened input = rs) (h : 7 * input.levels + 7 ≤ calls) :
    rs = limited input calls := by
  have hsame := eq_limited_of_inStep h (approximates hrs calls)
  have hexpression : rs.expression = Parser.expression input calls := congrArg (·.expression) hsame
  have hmultiplicative : rs.multiplicative = Parser.multiplicative input calls :=
    congrArg (·.multiplicative) hsame
  have hunary : rs.unary = Parser.unary input calls := congrArg (·.unary) hsame
  obtain ⟨hsums, hproducts, hitems⟩ := loops_of_opened_eq hrs
  rw [hmultiplicative] at hsums
  rw [hunary] at hproducts
  rw [hexpression] at hitems
  have honward := rulesOnward input calls
  rw [← hsame]
  refine Rules.ext rfl rfl ?_ rfl ?_ rfl rfl rfl rfl ?_
  · exact (chainRound_eq_iff honward.multiplicative).mp hsums
  · exact (chainRound_eq_iff honward.unary).mp hproducts
  · exact (itemsRound_eq_iff honward.expression).mp hitems

/-- The calls of the limit are enough for an expression. -/
theorem expression_eq_of_le (h : callLimit input.levels ≤ calls) :
    expression input calls = expression input (callLimit input.levels) :=
  eq_of_bounded (fun c => (rulesBounded input _).expression (affords_of_le (Nat.le_refl _) c))
    (rulesInStep (alike_self input) h).expression

/-! ## Calls within one another -/

/-- The number 1 in so many calls of `abs`. -/
def callTree : Nat → Tree .primary
  | 0 => .number 1 0
  | k + 1 => .call "abs" 0
      (.arguments ⟨"(", 0⟩ (.ofProduct (.factor (callTree k))) .lastItem ⟨")", 0⟩)

/-- Rules that are short of calls for an operand are short of them for an expression. -/
theorem expression_short {t : Tree .primary} {post : List Token}
    (hrest : input.rest c = t.yield ++ post)
    (h : ∃ c', primary input calls c = .error .overflow c') :
    ∃ c', expression input (calls + 5) c = .error .overflow c' := by
  obtain ⟨c', h⟩ := h
  obtain ⟨token, hhead, hoperator⟩ := primary_head t post
  have hseen : (input.rest c).head? = some token := by rw [hrest, hhead]
  have hsign : ¬ token.lexeme = .symbol .operator "-" := by
    intro hsign
    rw [Token.operator?, hsign] at hoperator
    cases hoperator
  have hexponent : exponent input (calls + 1) c = .error .overflow c' := by
    rw [exponent]
    exact bind_eq_error_iff.mpr (.inl h)
  have hunary : unary input (calls + 2) c = .error .overflow c' := by
    rw [unary, bind_apply, peek_apply, hseen]
    simp only [hsign, if_false]
    exact hexponent
  have hmultiplicative : multiplicative input (calls + 3) c = .error .overflow c' := by
    rw [multiplicative]
    exact bind_eq_error_iff.mpr (.inl hunary)
  refine ⟨c', ?_⟩
  rw [expression, additive]
  exact bind_eq_error_iff.mpr (.inl hmultiplicative)

/-- Rules that are short of calls for the first argument are short of them for the call. -/
theorem call_short {name : String} {position : Int} {opening : Mark} {first : Tree .expression}
    {post : List Token} (hrest : input.rest c = ⟨.symbol .functionName name, position⟩ ::
      opening.token .openParen :: (first.yield ++ post))
    (hlevels : c.depth + 1 ≤ input.levels)
    (h : ∃ c', expression input calls ((c.forward 1).inside.forward 1) = .error .overflow c') :
    ∃ c', primary input (calls + 2) c = .error .overflow c' := by
  obtain ⟨c', h⟩ := h
  -- the name and the parenthesis are passed, the latter inside the nested part
  have hseen : (input.rest c).head? = some ⟨.symbol .functionName name, position⟩ := by
    rw [hrest]
    rfl
  have hinside : input.rest (c.forward 1).inside =
      opening.token .openParen :: (first.yield ++ post) :=
    Input.rest_forward_one (c := c) hrest
  have hfirst : input.rest ((c.forward 1).inside.forward 1) = first.yield ++ post :=
    Input.rest_forward_one hinside
  have harguments : arguments input name (calls + 1) (c.forward 1).inside =
      .error .overflow c' := by
    rw [arguments, bind_apply, require_mark hinside]
    simp only
    rw [bind_apply, at?_expression hfirst]
    exact bind_eq_error_iff.mpr (.inl h)
  have hdepth : (c.forward 1).depth + 1 ≤ input.levels := by
    rw [Cursor.forward_depth]
    exact hlevels
  have hnested : nested input (arguments input name (calls + 1)) (c.forward 1) =
      .error .overflow c'.outside := by
    rw [nested_of_le _ hdepth, harguments]
  refine ⟨c'.outside, ?_⟩
  rw [primary, bind_apply, peek_apply, hseen]
  exact bind_eq_error_iff.mpr (.inr ⟨(), c.forward 1, rfl, bind_eq_error_iff.mpr (.inl hnested)⟩)

/-- **Every call within another takes seven.** -/
theorem primary_short (k : Nat) : ∀ (c : Cursor) (post : List Token),
    input.rest c = (callTree k).yield ++ post → c.depth + k ≤ input.levels →
      ∃ c', primary input (7 * k) c = .error .overflow c' := by
  induction k with
  | zero => exact fun c _ _ _ => ⟨c, rfl⟩
  | succ k ih =>
    intro c post hrest hdepth
    let inner : Tree .expression := .ofProduct (.factor (callTree k))
    let opening : Mark := ⟨"(", 0⟩
    let c₁ := (c.forward 1).inside.forward 1
    have hcall : input.rest c = ⟨.symbol .functionName "abs", 0⟩ ::
        opening.token .openParen :: (inner.yield ++ ([⟨.symbol .closeParen ")", 0⟩] ++ post)) := by
      rw [hrest]
      simp [callTree, Tree.yield, inner, opening, Mark.token]
    have hoperand : input.rest c₁ =
        (callTree k).yield ++ ([⟨.symbol .closeParen ")", 0⟩] ++ post) := by
      rw [Input.rest_forward_one (c := (c.forward 1).inside)
        (Input.rest_forward_one (c := c) hcall)]
      simp [inner, Tree.ofProduct, Tree.factor, Tree.yield]
    have hdepth' : c₁.depth + k ≤ input.levels := by
      change c.depth + 1 + k ≤ input.levels
      omega
    exact call_short hcall (by omega) (expression_short hoperand (ih c₁ _ hoperand hdepth'))

/-- So many calls of `abs` within one another. -/
def nestedCalls (k : Nat) : Tree .expression :=
  .ofProduct (.factor (callTree k))

/-! ## The whole sequence -/

/-- The step of the whole sequence, with a step for the expression. -/
def wholeBy (input : Input) (step : Action Float) : Action Float := do
  value (checkParentheses input.tokens.toList)
  let v ← step
  if (← remaining input) = 0 then return v else fail .trailingTokens

/-- **No more than seven calls for each nested part and six around them are ever open,** however
long the input is. The rules without a limit, on calls or on rounds, are determined by their
equations, and a parser comes to what they do. A parser that may have so many calls open, or more,
is never short of them, and answers alike. -/
theorem parse_unlimited (tokens : List Token) (bindings : Bindings) (bound : Nat)
    (hleast : 1 ≤ bound) (hgreatest : bound ≤ 114) :
    ∃ (p : Parser) (rs : Rules), Parser.new tokens bindings (.whole bound) = .ok p ∧
      (rs.opened p.input = rs ∧ ∀ other : Rules, other.opened p.input = other → other = rs) ∧
      p.parse = p.run (wholeBy p.input rs.expression) ∧
      ∀ calls, 7 * bound + 6 ≤ calls →
        p.parse = p.run (wholeBy p.input (expression p.input calls)) ∧
        ∀ c, wholeBy p.input (expression p.input calls) p.cursor ≠ .error .overflow c := by
  let p := fresh tokens bindings bound
  have hlevels : p.input.levels = bound := rfl
  have henough : 7 * p.input.levels + 7 ≤ 7 * bound + 7 := Nat.le_of_eq (by rw [hlevels])
  have hexpression (calls : Nat) (h : 7 * bound + 6 ≤ calls) :
      wholeBy p.input (expression p.input calls) = whole p.input := by
    rw [expression_eq_of_le (by rw [callLimit, hlevels]; exact h)]
    rfl
  refine ⟨p, limited p.input (7 * bound + 7), new_eq_fresh hleast hgreatest,
    ⟨opened_limited_eq henough, fun other h => eq_limited_of_opened_eq h henough⟩, ?_,
    fun calls h => ⟨?_, fun c => ?_⟩⟩
  · exact (parse_eq_run p).trans (congrArg p.run (hexpression _ (Nat.le_succ _)).symm)
  · exact (parse_eq_run p).trans (congrArg p.run (hexpression calls h).symm)
  · rw [hexpression calls h]
    exact whole_not_overflow p.input p.cursor c

/-- Two calls of `abs` within one another are two nested parts, for which 20 calls are enough. -/
theorem nestedCalls_unlimited :
    ∃ (p : Parser) (rs : Rules), Parser.new (nestedCalls 2).yield [] (.whole 2) = .ok p ∧
      rs.opened p.input = rs ∧ (p.run (wholeBy p.input rs.expression)).1 = .ok 1 ∧
      (p.run (wholeBy p.input (expression p.input 20))).1 = .ok 1 := by
  obtain ⟨p, rs, hp, ⟨hrs, -⟩, hparse, hcalls⟩ :=
    parse_unlimited (nestedCalls 2).yield [] 2 (by decide) (by decide)
  obtain rfl : fresh (nestedCalls 2).yield [] 2 = p := Except.ok.inj hp
  have hvalue : (fresh (nestedCalls 2).yield [] 2).parse.1 = .ok 1 := rfl
  obtain ⟨henough, -⟩ := hcalls 20 (by decide)
  exact ⟨_, rs, hp, hrs, hparse ▸ hvalue, henough ▸ hvalue⟩

/-- **The limit is reached:** with one call less a parser is short of calls, for as many calls
within one another as the bound allows. -/
theorem callLimit_least (bindings : Bindings) (bound : Nat) :
    let p := fresh (nestedCalls bound).yield bindings bound
    ∃ c, wholeBy p.input (expression p.input (7 * bound + 5)) p.cursor = .error .overflow c := by
  intro p
  have hrest : p.input.rest p.cursor = (callTree bound).yield ++ [] := by
    simp [p, fresh, Input.rest, nestedCalls, Tree.ofProduct, Tree.factor, Tree.yield]
  have hbalanced : balanced p.input.tokens.toList = true := by
    have h := balancedFrom_yield (nestedCalls bound) 0 []
    rwa [List.append_nil] at h
  have hshort := primary_short bound p.cursor [] hrest (Nat.le_of_eq (Nat.zero_add bound))
  obtain ⟨c, hexpression⟩ := expression_short hrest hshort
  refine ⟨c, ?_⟩
  rw [wholeBy, checkParentheses, if_pos hbalanced]
  exact bind_eq_error_iff.mpr (.inr ⟨(), p.cursor, rfl, bind_eq_error_iff.mpr (.inl hexpression)⟩)

end Parser

end Reckon
