import Reckon.Proofs.Grammar.Syntax
import Reckon.Proofs.Parser.Success
/-!
# Parser — what the rules pass on

A property of steps is inherited where every step has it of itself, and a step
that is made of others has it from them (`Inherited`). Then all the rules have it,
at every cursor and in however many calls (`rulesInherit`): the rules are opened
here once, for all such properties. A step stops of itself for one of the reasons
for which a run may stop (`Reason`), and never for the bound, which only a nested
part asks about.
-/

namespace Reckon

/-- Whether an error is about nested parts that the bound refuses. -/
def Error.isNesting : Error → Bool
  | nestingExceeded _ => true
  | _ => false

namespace Parser

variable {α β : Type} {input : Input} {c : Cursor}

/-- **The reasons for which a run stops.** -/
inductive Reason (input : Input) : Stop → Prop where
  /-- All calls that may be open are open. -/
  | overflow : Reason input .overflow
  /-- The bound refuses a nested part. -/
  | nesting : Reason input (.error (.nestingExceeded input.bound))
  /-- The tokens end where an operand has to stand. -/
  | missing : Reason input (.error .missingOperand)
  /-- A token starts no operand. -/
  | unexpected {token : Token} : token ∈ input.tokens.toList →
      Reason input (.error (.unexpected token))
  /-- A mark is missing, before a token or at the end. -/
  | required {what : Requirement} {found : Option Token} :
      (∀ token ∈ found, token ∈ input.tokens.toList) → Reason input (.error (.required what found))
  /-- An operation has no value. -/
  | operation {op : Operator} {left right : Float} {e : Error} :
      operate op left right = .error e → Reason input (.error e)
  /-- The name of a constant stands for none. -/
  | constantName {name : String} {position : Int} {e : Error} :
      ⟨.symbol .constantName name, position⟩ ∈ input.tokens.toList →
      constantValue name = .error e → Reason input (.error e)
  /-- A variable has no value. -/
  | variableName {name : String} {position : Int} :
      ⟨.symbol .variableName name, position⟩ ∈ input.tokens.toList →
      input.bindings.lookup name = none → Reason input (.error (.unboundVariable name))
  /-- A call has no value. -/
  | functionName {name : String} {position : Int} {args : List Float} {e : Error} :
      ⟨.symbol .functionName name, position⟩ ∈ input.tokens.toList →
      applyNamed name args = .error e → Reason input (.error e)

/-- The token at the cursor is one of the tokens. -/
theorem mem_of_head? {token : Token} (h : (input.rest c).head? = some token) :
    token ∈ input.tokens.toList :=
  List.mem_of_mem_drop (List.mem_of_mem_head? h)

/-- Where an operator is seen, it is the first token that is left. -/
theorem rest_of_operator? {precedence : Nat} {op : Operator}
    (h : ((input.rest c).head?.bind Token.operator?).filter (·.precedence = precedence) =
      some op) : op.precedence = precedence ∧
    ∃ position, input.rest c = Grammar.operatorToken op position :: input.rest (c.forward 1) :=
  (operator?_eq_ok (operator?_apply precedence)).2 op h

/-- Where a mark is seen, it is the first token that is left. -/
theorem rest_of_is {kind : Symbol}
    (h : ((input.rest c).head?.map (·.lexeme.is kind)).getD false = true) :
    ∃ mark : Grammar.Mark, input.rest c = mark.token kind :: input.rest (c.forward 1) :=
  (at?_eq_ok (at?_apply kind)).2 h

/-! ## Properties of steps -/

/-- **A property of steps is inherited:** those that do nothing or stop have it, and those
that are made of others have it from them. -/
structure Inherited (input : Input) (P : (α : Type) → Action α → Cursor → Prop) : Prop where
  pure {α : Type} (v : α) (c : Cursor) : P α (Pure.pure v) c
  fail {α : Type} {e : Error} (c : Cursor) :
    Reason input (.error e) → e.isNesting = false → P α (Parser.fail e) c
  overflow {α : Type} (c : Cursor) : P α Parser.overflow c
  /-- A step that only looks, before another. -/
  look {α β : Type} {a : Action α} {f : α → Action β} {v : α} {c : Cursor} :
    a c = .ok v c → P β (f v) c → P β (a >>= f) c
  /-- Moving past a token that is there, before another step. -/
  past {β : Type} {f : Unit → Action β} {token : Token} {c : Cursor} :
    (input.rest c).head? = some token → (∀ c', P β (f ()) c') → P β (advance >>= f) c
  /-- One step after another. -/
  bind {α β : Type} {a : Action α} {f : α → Action β} {c : Cursor} :
    P α a c → (∀ v c', P β (f v) c') → P β (a >>= f) c
  nested {α : Type} {a : Action α} (c : Cursor) : (∀ c, P α a c) → P α (Parser.nested input a) c

namespace Inherited

variable {P : (α : Type) → Action α → Cursor → Prop} (h : Inherited input P)

include h

/-- A computation with values and names. -/
theorem value {x : Except Error α} (hx : Except.FailsOnly (·.ofValue) x)
    (hreason : ∀ e, x = .error e → Reason input (.error e)) (c : Cursor) :
    P α (Parser.value x) c := by
  cases x with
  | ok v => exact h.pure v c
  | error e =>
    have he := hx e rfl
    refine h.fail c (hreason e rfl) ?_
    cases e <;> first | rfl | cases he

theorem operate (op : Operator) (left right : Float) (c : Cursor) :
    P Float (Parser.value (operate op left right)) c :=
  h.value (ofValue_operate op left right) (fun _ => .operation) c

theorem require (kind : Symbol) (what : Requirement) (c : Cursor) :
    P Unit (Parser.require input kind what) c := by
  refine h.look peek_apply ?_
  split
  · next hkind =>
    obtain ⟨mark, hrest⟩ := rest_of_is hkind
    exact h.past (congrArg List.head? hrest) fun _ => h.pure () _
  · exact h.fail c (.required fun token hfound => mem_of_head? hfound) rfl

/-- A chain of operands. -/
theorem chain {precedence : Nat} {operand : Action Float} (ho : ∀ c, P Float operand c)
    (count : Nat) : ∀ left c, P Float (Parser.chain input precedence operand count left) c := by
  induction count with
  | zero => exact h.pure
  | succ count ih =>
    intro left c
    refine h.look (operator?_apply precedence) ?_
    split
    · exact h.pure left c
    · next op hop =>
      obtain ⟨-, position, hrest⟩ := rest_of_operator? hop
      refine h.past (congrArg List.head? hrest) fun c₁ => h.bind (ho c₁) fun right c₂ => ?_
      exact h.bind (h.operate op left right c₂) ih

/-- A list of items. -/
theorem items {item : Action Float} (hi : ∀ c, P Float item c) (count : Nat) :
    ∀ c, P (List Float) (Parser.items input item count) c := by
  induction count with
  | zero => exact h.pure []
  | succ count ih =>
    intro c
    refine h.look (at?_apply .comma) ?_
    split
    · next hcomma =>
      obtain ⟨comma, hrest⟩ := rest_of_is hcomma
      refine h.past (congrArg List.head? hrest) fun c₁ => h.bind (hi c₁) fun first c₂ => ?_
      exact h.bind (ih c₂) fun rest c₃ => h.pure _ c₃
    · exact h.pure [] c

end Inherited

/-! ## The rules -/

/-- The rules have a property in so many calls. -/
structure RulesInherit (input : Input) (P : (α : Type) → Action α → Cursor → Prop)
    (calls : Nat) : Prop where
  expression (c : Cursor) : P Float (expression input calls) c
  additive (c : Cursor) : P Float (additive input calls) c
  multiplicative (c : Cursor) : P Float (multiplicative input calls) c
  unary (c : Cursor) : P Float (unary input calls) c
  exponent (c : Cursor) : P Float (exponent input calls) c
  primary (c : Cursor) : P Float (primary input calls) c
  arguments (name : String) (c : Cursor) : P (List Float) (arguments input name calls) c

namespace RulesInherit

variable {P : (α : Type) → Action α → Cursor → Prop} {calls : Nat} (r : RulesInherit input P calls)
  (h : Inherited input P)

include r h

theorem additive_succ (c : Cursor) : P Float (Parser.additive input (calls + 1)) c := by
  rw [Parser.additive]
  refine h.bind (r.multiplicative c) fun left c₁ => h.look remaining_apply ?_
  exact h.chain r.multiplicative _ left c₁

theorem multiplicative_succ (c : Cursor) : P Float (Parser.multiplicative input (calls + 1)) c := by
  rw [Parser.multiplicative]
  refine h.bind (r.unary c) fun left c₁ => h.look remaining_apply ?_
  exact h.chain r.unary _ left c₁

theorem unary_succ (c : Cursor) : P Float (Parser.unary input (calls + 1)) c := by
  rw [Parser.unary]
  refine h.look peek_apply ?_
  cases hseen : (input.rest c).head? with
  | none => exact h.fail c .missing rfl
  | some token =>
    simp only
    split
    · exact h.past hseen fun c₁ => h.bind (h.nested c₁ r.unary) fun v c₂ => h.pure _ c₂
    · exact r.exponent c

theorem exponent_succ (c : Cursor) : P Float (Parser.exponent input (calls + 1)) c := by
  rw [Parser.exponent]
  refine h.bind (r.primary c) fun base c₁ => h.look (operator?_apply 4) ?_
  split
  · exact h.pure base c₁
  · next op hop =>
    obtain ⟨-, position, hrest⟩ := rest_of_operator? hop
    refine h.past (congrArg List.head? hrest) fun c₂ => h.bind (h.nested c₂ r.unary) ?_
    exact h.operate op base

theorem primary_succ (c : Cursor) : P Float (Parser.primary input (calls + 1)) c := by
  rw [Parser.primary]
  refine h.look peek_apply ?_
  cases hseen : (input.rest c).head? with
  | none => exact h.fail c .missing rfl
  | some token =>
    -- the token is one of the input's, so a name that stands for nothing is too
    have hmem := mem_of_head? hseen
    obtain ⟨v | ⟨kind, name⟩, position⟩ := token
    · exact h.past hseen (h.pure v)
    · cases kind with
      | constantName =>
        exact h.past hseen (h.value (ofValue_constantValue name) fun e => .constantName hmem)
      | variableName =>
        refine h.past hseen fun c₁ => ?_
        cases hl : input.bindings.lookup name with
        | none => exact h.fail c₁ (.variableName hmem hl) rfl
        | some v => exact h.pure v c₁
      | functionName =>
        refine h.past hseen fun c₁ => h.bind (h.nested c₁ (r.arguments name)) fun args => ?_
        exact h.value (ofValue_applyNamed name args) fun e => .functionName hmem
      | openParen =>
        refine h.past hseen fun c₁ => h.bind (h.nested c₁ r.expression) fun v c₂ => ?_
        exact h.bind (h.require .closeParen .groupEnd c₂) fun _ => h.pure v
      | operator | closeParen | comma => exact h.fail c (.unexpected hmem) rfl

theorem arguments_succ (name : String) (c : Cursor) :
    P (List Float) (Parser.arguments input name (calls + 1)) c := by
  rw [Parser.arguments]
  refine h.bind (h.require .openParen (.callStart name) c) fun _ c₁ => ?_
  refine h.look (at?_apply .closeParen) ?_
  split
  · next hclose =>
    obtain ⟨closing, hrest⟩ := rest_of_is hclose
    exact h.past (congrArg List.head? hrest) (h.pure [])
  · refine h.bind (r.expression c₁) fun first c₂ => h.look remaining_apply ?_
    refine h.bind (h.items r.expression _ c₂) fun rest c₃ => ?_
    exact h.bind (h.require .closeParen .callEnd c₃) fun _ => h.pure _

end RulesInherit

/-- **The rules have every property that is inherited,** in however many calls. -/
theorem rulesInherit {P : (α : Type) → Action α → Cursor → Prop} (h : Inherited input P)
    (calls : Nat) : RulesInherit input P calls := by
  induction calls with
  | zero => constructor <;> intros <;> exact h.overflow _
  | succ calls r =>
    exact {
      expression := r.additive
      additive := r.additive_succ h
      multiplicative := r.multiplicative_succ h
      unary := r.unary_succ h
      exponent := r.exponent_succ h
      primary := r.primary_succ h
      arguments := r.arguments_succ h }

/-- What all rules have, a rule has that a parser is asked for. -/
theorem RulesInherit.action {P : (α : Type) → Action α → Cursor → Prop} {calls : Nat}
    (h : RulesInherit input P calls) (r : Rule) (c : Cursor) :
    P Float (r.action input calls) c := by
  cases r with
  | expression => exact h.expression c
  | additive => exact h.additive c
  | multiplicative => exact h.multiplicative c
  | unary => exact h.unary c
  | exponent => exact h.exponent c
  | primary => exact h.primary c

end Parser

end Reckon
