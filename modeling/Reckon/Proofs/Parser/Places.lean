import Reckon.Proofs.Grammar.Syntax
import Reckon.Proofs.Parser.Whole
/-!
# Parser — where the tokens stand

No rule looks at the places of the tokens. On tokens that have been taken off
their places a run does what it does on the tokens, and stops for the same
error, whose tokens are off their places too (`rulesUnplaced`). So tokens that
say the same come to the same value, or to errors that differ in places only
(`outcome_of_lexemes`).
-/

namespace Reckon

/-- The token, taken off its place. -/
def Token.unplaced (token : Token) : Token :=
  { token with position := 0 }

/-- The error, whose tokens are taken off their places. -/
def Error.unplaced : Error → Error
  | unexpected found => unexpected found.unplaced
  | required what found => required what (found.map Token.unplaced)
  | e => e

/-- An error that is none of the grammar has no tokens. -/
theorem Error.unplaced_of_not_isSyntax {e : Error} (h : e.isSyntax = false) : e.unplaced = e := by
  cases e <;> first | rfl | cases h

/-- Tokens that say the same are the same off their places. -/
theorem map_unplaced_of_lexemes {ts ts' : List Token}
    (h : ts'.map (·.lexeme) = ts.map (·.lexeme)) :
    ts'.map Token.unplaced = ts.map Token.unplaced := by
  have hplaced (ts : List Token) :
      ts.map Token.unplaced = (ts.map (·.lexeme)).map fun lexeme => ⟨lexeme, 0⟩ := by
    rw [List.map_map]
    rfl
  rw [hplaced, hplaced, h]

namespace Parser

variable {α β : Type} {input : Input} {c : Cursor}

/-- Why a step stops, with the tokens taken off their places. -/
def Stop.unplaced : Stop → Stop
  | error e => error e.unplaced
  | overflow => overflow

/-- What a parser reads, with the tokens taken off their places. -/
def Input.unplaced (input : Input) : Input :=
  { input with tokens := input.tokens.map Token.unplaced }

/-- The same tokens are left, off their places. -/
theorem Input.rest_unplaced (input : Input) (c : Cursor) :
    input.unplaced.rest c = (input.rest c).map Token.unplaced := by
  rw [Input.rest, Input.rest, Input.unplaced, Array.toList_map, List.map_drop]

/-! ## Steps -/

/-- **A step is another one off the places:** it has the same value, or stops for
the same reason, at the same cursor. -/
def Unplaced (a a' : Action α) (c : Cursor) : Prop :=
  a' c = match a c with
    | .ok v c' => .ok v c'
    | .error stop c' => .error stop.unplaced c'

namespace Unplaced

theorem pure (v : α) : Unplaced (Pure.pure v) (Pure.pure v) c := rfl

theorem fail (e : Error) :
    Unplaced (Parser.fail e : Action α) (Parser.fail e.unplaced) c := rfl

/-- A computation that raises no error of the grammar names no token. -/
theorem value {x : Except Error α} (hx : Semantic x) :
    Unplaced (Parser.value x) (Parser.value x) c := by
  cases x with
  | ok v => exact pure v
  | error e =>
    have hfail := fail (α := α) (c := c) e
    rwa [Error.unplaced_of_not_isSyntax (hx e rfl)] at hfail

/-- One step after another. -/
theorem bind {a a' : Action α} {f f' : α → Action β} (ha : Unplaced a a' c)
    (hf : ∀ v c, Unplaced (f v) (f' v) c) : Unplaced (a >>= f) (a' >>= f') c := by
  rw [Unplaced, bind_apply, bind_apply, ha]
  cases a c with
  | ok v c' => exact hf v c'
  | error stop c' => rfl

/-- Steps that only look, before others. -/
theorem look {γ : Type} {a : Action α} {a' : Action γ} {f : α → Action β} {f' : γ → Action β}
    {v : α} {v' : γ} (ha : a c = .ok v c) (ha' : a' c = .ok v' c)
    (hf : Unplaced (f v) (f' v') c) : Unplaced (a >>= f) (a' >>= f') c := by
  rw [Unplaced, bind_apply, bind_apply, ha, ha']
  exact hf

/-- Moving past one token, before another step. -/
theorem past {f f' : Unit → Action β} (hf : ∀ c, Unplaced (f ()) (f' ()) c) :
    Unplaced (advance >>= f) (advance >>= f') c :=
  bind (a := advance) rfl fun _ => hf

/-- A nested part is refused under the same bound. -/
theorem nested {a a' : Action α} (ha : ∀ c, Unplaced a a' c) :
    Unplaced (nested input a) (nested input.unplaced a') c := by
  have hlevels : input.unplaced.levels = input.levels := rfl
  rw [Unplaced]
  rcases Nat.lt_or_ge input.levels (c.depth + 1) with hl | hl
  · rw [nested_of_lt a hl, nested_of_lt a' (hlevels ▸ hl)]
    rfl
  · rw [nested_of_le a hl, nested_of_le a' (hlevels ▸ hl), ha c.inside]
    cases a c.inside <;> rfl

/-! ## Looking at a token -/

theorem peek {f : Option Token → Action β} {f' : Option Token → Action β}
    (hf : Unplaced (f (input.rest c).head?) (f' ((input.rest c).head?.map Token.unplaced)) c) :
    Unplaced (peek input >>= f) (Parser.peek input.unplaced >>= f') c := by
  refine look peek_apply peek_apply ?_
  rwa [Input.rest_unplaced, List.head?_map]

/-- The kind of a token is not its place. -/
theorem at? {kind : Symbol} {f f' : Bool → Action β} (hf : ∀ b, Unplaced (f b) (f' b) c) :
    Unplaced (at? input kind >>= f) (Parser.at? input.unplaced kind >>= f') c := by
  refine look (at?_apply kind) (at?_apply kind) ?_
  rw [Input.rest_unplaced, List.head?_map, Option.map_map]
  exact hf _

theorem operator? {precedence : Nat} {f f' : Option Operator → Action β}
    (hf : ∀ op, Unplaced (f op) (f' op) c) : Unplaced (operator? input precedence >>= f)
      (Parser.operator? input.unplaced precedence >>= f') c := by
  refine look (operator?_apply precedence) (operator?_apply precedence) ?_
  rw [Input.rest_unplaced, List.head?_map, Option.bind_map]
  exact hf _

theorem remaining {f f' : Nat → Action β} (hf : ∀ n, Unplaced (f n) (f' n) c) :
    Unplaced (remaining input >>= f) (Parser.remaining input.unplaced >>= f') c := by
  refine look remaining_apply remaining_apply ?_
  rw [Input.rest_unplaced, List.length_map]
  exact hf _

theorem require (kind : Symbol) (what : Requirement) :
    Unplaced (require input kind what) (Parser.require input.unplaced kind what) c := by
  rw [Unplaced, require_apply, require_apply, Input.rest_unplaced, List.head?_map, Option.map_map]
  cases (input.rest c).head? with
  | none => rfl
  | some token =>
    have hkind : token.unplaced.lexeme.is kind = token.lexeme.is kind := rfl
    simp only [Option.map_some, Option.getD_some, Function.comp_apply, hkind]
    by_cases hk : token.lexeme.is kind = true
    · rw [if_pos hk, if_pos hk]
    · rw [if_neg hk, if_neg hk]
      rfl

/-! ## Repetitions -/

theorem chain {precedence : Nat} {operand operand' : Action Float}
    (ho : ∀ c, Unplaced operand operand' c) (count : Nat) : ∀ (left : Float) (c : Cursor),
      Unplaced (chain input precedence operand count left)
        (chain input.unplaced precedence operand' count left) c := by
  induction count with
  | zero => exact fun left _ => pure left
  | succ count ih =>
    intro left c
    rw [Parser.chain, Parser.chain]
    refine operator? fun op => ?_
    cases op with
    | none => exact pure left
    | some op =>
      refine past fun c => bind (ho c) fun right c => ?_
      exact bind (value (semantic_operate op left right)) ih

theorem items {item item' : Action Float} (hi : ∀ c, Unplaced item item' c) (count : Nat) :
    ∀ c, Unplaced (items input item count) (Parser.items input.unplaced item' count) c := by
  induction count with
  | zero => exact fun _ => pure []
  | succ count ih =>
    intro c
    rw [Parser.items, Parser.items]
    refine at? fun more => ?_
    cases more with
    | false => exact pure []
    | true => exact past fun c => bind (hi c) fun v c => bind (ih c) fun vs c => pure (v :: vs)

end Unplaced

/-! ## The rules -/

/-- The rules do not look at the places, in so many calls. -/
structure RulesUnplaced (input : Input) (calls : Nat) : Prop where
  expression (c : Cursor) : Unplaced (expression input calls) (expression input.unplaced calls) c
  additive (c : Cursor) : Unplaced (additive input calls) (additive input.unplaced calls) c
  multiplicative (c : Cursor) :
    Unplaced (multiplicative input calls) (multiplicative input.unplaced calls) c
  unary (c : Cursor) : Unplaced (unary input calls) (unary input.unplaced calls) c
  exponent (c : Cursor) : Unplaced (exponent input calls) (exponent input.unplaced calls) c
  primary (c : Cursor) : Unplaced (primary input calls) (primary input.unplaced calls) c
  arguments (name : String) (c : Cursor) :
    Unplaced (arguments input name calls) (arguments input.unplaced name calls) c

namespace RulesUnplaced

variable {calls : Nat} (r : RulesUnplaced input calls)

include r

theorem additive_succ (c : Cursor) : Unplaced (Parser.additive input (calls + 1))
    (Parser.additive input.unplaced (calls + 1)) c := by
  rw [Parser.additive, Parser.additive]
  refine .bind (r.multiplicative c) fun left c => .remaining fun count => ?_
  exact .chain r.multiplicative count left c

theorem multiplicative_succ (c : Cursor) : Unplaced (Parser.multiplicative input (calls + 1))
    (Parser.multiplicative input.unplaced (calls + 1)) c := by
  rw [Parser.multiplicative, Parser.multiplicative]
  refine .bind (r.unary c) fun left c => .remaining fun count => ?_
  exact .chain r.unary count left c

theorem unary_succ (c : Cursor) : Unplaced (Parser.unary input (calls + 1))
    (Parser.unary input.unplaced (calls + 1)) c := by
  rw [Parser.unary, Parser.unary]
  refine .peek ?_
  cases (input.rest c).head? with
  | none => exact .fail .missingOperand
  | some token =>
    by_cases hm : token.lexeme = .symbol .operator "-"
    · have hm' : token.unplaced.lexeme = .symbol .operator "-" := hm
      simp only [Option.map_some, hm, hm', if_true]
      exact .past fun c => .bind (.nested r.unary) fun v c => .pure _
    · have hm' : ¬ token.unplaced.lexeme = .symbol .operator "-" := hm
      simp only [Option.map_some, hm, hm', if_false]
      exact r.exponent c

theorem exponent_succ (c : Cursor) : Unplaced (Parser.exponent input (calls + 1))
    (Parser.exponent input.unplaced (calls + 1)) c := by
  rw [Parser.exponent, Parser.exponent]
  refine .bind (r.primary c) fun base c => .operator? fun op => ?_
  cases op with
  | none => exact .pure base
  | some op =>
    refine .past fun c => .bind (.nested r.unary) fun power c => ?_
    exact .value (semantic_operate op base power)

theorem primary_succ (c : Cursor) : Unplaced (Parser.primary input (calls + 1))
    (Parser.primary input.unplaced (calls + 1)) c := by
  rw [Parser.primary, Parser.primary]
  refine .peek ?_
  cases (input.rest c).head? with
  | none => exact .fail .missingOperand
  | some token =>
    -- the token says the same off its place, so it is read in the same way
    obtain ⟨v | ⟨kind, name⟩, position⟩ := token
    · exact .past fun c => .pure v
    · cases kind with
      | constantName => exact .past fun c => .value (semantic_constantValue name)
      | variableName =>
        refine .past fun c => ?_
        have hbindings : input.unplaced.bindings = input.bindings := rfl
        rw [hbindings]
        cases input.bindings.lookup name with
        | none => exact .fail (.unboundVariable name)
        | some v => exact .pure v
      | functionName =>
        refine .past fun c => .bind (.nested (r.arguments name)) fun args c => ?_
        exact .value (semantic_applyNamed name args)
      | openParen =>
        refine .past fun c => .bind (.nested r.expression) fun v c => ?_
        exact .bind (.require .closeParen .groupEnd) fun _ c => .pure v
      | operator | closeParen | comma => exact .fail (.unexpected _)

theorem arguments_succ (name : String) (c : Cursor) :
    Unplaced (Parser.arguments input name (calls + 1))
      (Parser.arguments input.unplaced name (calls + 1)) c := by
  rw [Parser.arguments, Parser.arguments]
  refine .bind (.require .openParen (.callStart name)) fun _ c => .at? fun closed => ?_
  cases closed with
  | true => exact .past fun c => .pure []
  | false =>
    refine .bind (r.expression c) fun first c => .remaining fun count => ?_
    refine .bind (.items r.expression count c) fun rest c => ?_
    exact .bind (.require .closeParen .callEnd) fun _ c => .pure (first :: rest)

end RulesUnplaced

/-- **The rules do not look at the places,** in however many calls. -/
theorem rulesUnplaced (input : Input) (calls : Nat) : RulesUnplaced input calls := by
  induction calls with
  | zero => constructor <;> intros <;> rfl
  | succ calls r =>
    exact {
      expression := r.additive
      additive := r.additive_succ
      multiplicative := r.multiplicative_succ
      unary := r.unary_succ
      exponent := r.exponent_succ
      primary := r.primary_succ
      arguments := r.arguments_succ }

/-! ## Whole sequences -/

/-- Nor does the count of parentheses. -/
theorem balancedFrom_unplaced (ts : List Token) : ∀ opened,
    balancedFrom opened (ts.map Token.unplaced) = balancedFrom opened ts := by
  induction ts with
  | nil => exact fun _ => rfl
  | cons token ts ih =>
    intro opened
    have hkind (kind : Symbol) : token.unplaced.lexeme.is kind = token.lexeme.is kind := rfl
    simp only [List.map_cons, balancedFrom, hkind, ih]

theorem whole_unplaced (input : Input) (c : Cursor) :
    Unplaced (whole input) (whole input.unplaced) c := by
  have hcheck : checkParentheses input.unplaced.tokens.toList =
      checkParentheses input.tokens.toList := by
    rw [checkParentheses, checkParentheses, balanced, balanced, Input.unplaced, Array.toList_map,
      balancedFrom_unplaced]
  have hbalance : Semantic (checkParentheses input.tokens.toList) := by
    rw [checkParentheses]
    split
    · exact .ok ()
    · exact .error rfl
  rw [whole, whole, hcheck]
  refine .bind (.value hbalance) fun _ c => ?_
  refine .bind ((rulesUnplaced input _).expression c) fun v c => .remaining fun left => ?_
  split
  · exact .pure v
  · exact .fail .trailingTokens

theorem parse_unplaced (input : Input) (c : Cursor) :
    (parse ⟨input.unplaced, c⟩).1 = (parse ⟨input, c⟩).1.mapError Error.unplaced := by
  rw [parse_eq_run, parse_eq_run, run, run, whole_unplaced input c]
  rcases whole input c with ⟨v, c⟩ | ⟨e | -, c⟩ <;> rfl

/-- **Off their places tokens come to the same,** or to the same error off its
places. -/
theorem outcome_unplaced (ts : List Token) (bindings : Bindings) (bound : Value) :
    outcome (ts.map Token.unplaced) bindings bound =
      (outcome ts bindings bound).mapError Error.unplaced := by
  rw [outcome, outcome, Parser.new, Parser.new]
  cases bound.number with
  | error kind => rfl
  | ok q =>
    have hinput : (⟨(ts.map Token.unplaced).toArray, bindings, q⟩ : Input) =
        Input.unplaced ⟨ts.toArray, bindings, q⟩ := by
      rw [Input.unplaced, List.map_toArray]
    have hparse := parse_unplaced ⟨ts.toArray, bindings, q⟩ ⟨0, 0⟩
    simp only [Except.mapError_ok, bind, Except.bind, hinput]
    by_cases hb : (q.atLeast leastBound && q.atMost greatestBound) = true
    · rw [if_pos hb, if_pos hb]
      exact hparse
    · rw [if_neg hb, if_neg hb]
      rfl

/-- **Tokens that say the same** come to the same value, or to errors that differ in
places only. -/
theorem outcome_of_lexemes {ts ts' : List Token} (h : ts'.map (·.lexeme) = ts.map (·.lexeme))
    (bindings : Bindings) (bound : Value) :
    (outcome ts' bindings bound).mapError Error.unplaced =
      (outcome ts bindings bound).mapError Error.unplaced := by
  rw [← outcome_unplaced, ← outcome_unplaced, map_unplaced_of_lexemes h]

end Parser

end Reckon
