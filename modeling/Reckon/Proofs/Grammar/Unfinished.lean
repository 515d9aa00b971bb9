import Reckon.Proofs.Grammar.Soundness
import Reckon.Proofs.Grammar.Syntax
import Reckon.Proofs.Parser.Failure
/-!
# Grammar — parts that are left unfinished

A rule that stops with a syntax error has read a part of a tree: whole parts,
and the one that was begun last, which is left unfinished itself (`Unfinished`).
What has been read and the error belong together, since the rule that raised the
error was in a certain place. Each rule is opened once (`rulesLeave`), and all
that is known of a run with a syntax error is then known by induction on what it
has left unfinished.
-/

namespace Reckon

namespace Grammar

/-- **A part is left unfinished** after some tokens, for an error. -/
inductive Unfinished : Part → List Token → Error → Prop where
  | expression {read : List Token} {e : Error} :
      Unfinished .additive read e → Unfinished .expression read e
  /-- The first product of a sum. -/
  | additive {read : List Token} {e : Error} :
      Unfinished .multiplicative read e → Unfinished .additive read e
  /-- Another product of a sum. -/
  | sums (first : Tree .multiplicative) {read : List Token} {e : Error} :
      Unfinished .sums read e → Unfinished .additive (first.yield ++ read) e
  /-- The product after an operator. -/
  | sum (op : Operator) (level : op.precedence = 2) (position : Int) {read : List Token}
      {e : Error} : Unfinished .multiplicative read e →
      Unfinished .sums (operatorToken op position :: read) e
  /-- A later one. -/
  | laterSum (op : Operator) (level : op.precedence = 2) (position : Int)
      (operand : Tree .multiplicative) {read : List Token} {e : Error} : Unfinished .sums read e →
      Unfinished .sums (operatorToken op position :: operand.yield ++ read) e
  /-- The first factor of a product. -/
  | multiplicative {read : List Token} {e : Error} :
      Unfinished .unary read e → Unfinished .multiplicative read e
  /-- Another factor of a product. -/
  | products (first : Tree .unary) {read : List Token} {e : Error} :
      Unfinished .products read e → Unfinished .multiplicative (first.yield ++ read) e
  /-- The factor after an operator. -/
  | product (op : Operator) (level : op.precedence = 3) (position : Int) {read : List Token}
      {e : Error} : Unfinished .unary read e →
      Unfinished .products (operatorToken op position :: read) e
  /-- A later one. -/
  | laterProduct (op : Operator) (level : op.precedence = 3) (position : Int)
      (operand : Tree .unary) {read : List Token} {e : Error} : Unfinished .products read e →
      Unfinished .products (operatorToken op position :: operand.yield ++ read) e
  /-- The factor after a minus sign. -/
  | negation (position : Int) {read : List Token} {e : Error} :
      Unfinished .unary read e → Unfinished .unary (operatorToken .minus position :: read) e
  | unsigned {read : List Token} {e : Error} :
      Unfinished .exponent read e → Unfinished .unary read e
  /-- The base of a power. -/
  | base {read : List Token} {e : Error} :
      Unfinished .primary read e → Unfinished .exponent read e
  /-- The right operand of a power. -/
  | power (base : Tree .primary) (op : Operator) (level : op.precedence = 4) (position : Int)
      {read : List Token} {e : Error} : Unfinished .unary read e →
      Unfinished .exponent (base.yield ++ operatorToken op position :: read) e
  /-- No operand at the end. -/
  | missing : Unfinished .primary [] .missingOperand
  /-- A token that starts no operand. -/
  | unexpected (token : Token) : Unfinished .primary [] (.unexpected token)
  /-- The arguments of a call. -/
  | call (name : String) (position : Int) {read : List Token} {e : Error} :
      Unfinished .arguments read e →
      Unfinished .primary (⟨.symbol .functionName name, position⟩ :: read) e
  /-- The inside of a group. -/
  | group (opening : Mark) {read : List Token} {e : Error} :
      Unfinished .expression read e → Unfinished .primary (opening.token .openParen :: read) e
  /-- No parenthesis after the inside of a group. -/
  | groupEnd (opening : Mark) (inside : Tree .expression) (found : Option Token) :
      Unfinished .primary (opening.token .openParen :: inside.yield) (.required .groupEnd found)
  /-- No parenthesis after the name of a function. -/
  | callStart (name : String) (found : Option Token) :
      Unfinished .arguments [] (.required (.callStart name) found)
  /-- The first argument. -/
  | arguments (opening : Mark) {read : List Token} {e : Error} :
      Unfinished .expression read e → Unfinished .arguments (opening.token .openParen :: read) e
  /-- Another argument. -/
  | items (opening : Mark) (first : Tree .expression) {read : List Token} {e : Error} :
      Unfinished .items read e →
      Unfinished .arguments (opening.token .openParen :: first.yield ++ read) e
  /-- No parenthesis after the arguments. -/
  | callEnd (opening : Mark) (first : Tree .expression) (rest : Tree .items)
      (found : Option Token) :
      Unfinished .arguments (opening.token .openParen :: first.yield ++ rest.yield)
        (.required .callEnd found)
  /-- The argument after a comma. -/
  | item (comma : Mark) {read : List Token} {e : Error} :
      Unfinished .expression read e → Unfinished .items (comma.token .comma :: read) e
  /-- A later one. -/
  | laterItem (comma : Mark) (argument : Tree .expression) {read : List Token} {e : Error} :
      Unfinished .items read e →
      Unfinished .items (comma.token .comma :: argument.yield ++ read) e

end Grammar

namespace Parser

open Grammar

variable {α β : Type} {input : Input} {p q : Part} {c c₁ c' : Cursor} {e : Error} {bound : Nat}

/-- **A run leaves a part unfinished** between two cursors, and the error is about the
token that comes next. -/
def Leaves (input : Input) (p : Part) (c c' : Cursor) (e : Error) : Prop :=
  ∃ read, Unfinished p read e ∧ input.rest c = read ++ input.rest c' ∧ e.IsAt (input.rest c').head?

/-- A part of which nothing has been read. -/
theorem Leaves.here (h : Unfinished p [] e) (hat : e.IsAt (input.rest c).head?) :
    Leaves input p c c e :=
  ⟨[], h, rfl, hat⟩

/-- A part that is left unfinished in a part of it, after what has been read before. -/
theorem Leaves.after (h : Leaves input p c₁ c' e) (before : List Token)
    (hbefore : input.rest c = before ++ input.rest c₁)
    (hpart : ∀ {read}, Unfinished p read e → Unfinished q (before ++ read) e) :
    Leaves input q c c' e := by
  obtain ⟨read, hread, hrest, hat⟩ := h
  exact ⟨before ++ read, hpart hread, by rw [hbefore, hrest, List.append_assoc], hat⟩

/-- A part that starts with the part of it that is left unfinished. -/
theorem Leaves.within (h : Leaves input p c c' e)
    (hpart : ∀ {read}, Unfinished p read e → Unfinished q read e) : Leaves input q c c' e :=
  h.after [] rfl hpart

/-- **A step leaves its part unfinished** where it stops with a syntax error. -/
def LeavesOnly (input : Input) (p : Part) (a : Action α) : Prop :=
  ∀ {c c' : Cursor} {e : Error}, a c = .error (.error e) c' → e.isSyntax → Leaves input p c c' e

/-- The rules leave their parts unfinished in so many calls. -/
structure RulesLeave (input : Input) (calls : Nat) : Prop where
  expression : LeavesOnly input .expression (expression input calls)
  additive : LeavesOnly input .additive (additive input calls)
  multiplicative : LeavesOnly input .multiplicative (multiplicative input calls)
  unary : LeavesOnly input .unary (unary input calls)
  exponent : LeavesOnly input .exponent (exponent input calls)
  primary : LeavesOnly input .primary (primary input calls)
  arguments (name : String) : LeavesOnly input .arguments (arguments input name calls)

/-- A nested part leaves the same unfinished. -/
theorem LeavesOnly.nested {a : Action α} (h : LeavesOnly input p a) :
    LeavesOnly input p (nested input a) := by
  intro c c' e he hs
  rcases nested_eq_error he with hrefused | ⟨c₁, ha, rfl⟩
  · cases hrefused
    cases hs
  -- the tokens that are left do not hang on the depth
  · obtain ⟨read, hread, hrest, hat⟩ := h ha hs
    exact ⟨read, hread, hrest, hat⟩

/-- A semantic computation stops with no syntax error. -/
theorem not_isSyntax_of_value {x : Except Error α} (hx : Semantic x)
    (h : value x c = .error (.error e) c') : ¬ e.isSyntax := by
  obtain ⟨e', he, hstop, -⟩ := value_eq_error_iff.mp h
  cases hstop
  simp [hx e he]

/-- A chain leaves an operand unfinished, after an operator. -/
theorem chain_leaves {precedence : Nat} {operand : Action Float}
    {result : p.Meaning → Except Error Float}
    (hnext : ∀ (op : Operator), op.precedence = precedence → ∀ position {read e},
      Unfinished p read e → Unfinished q (operatorToken op position :: read) e)
    (hlater : ∀ (op : Operator), op.precedence = precedence → ∀ position (t : Tree p) {read e},
      Unfinished q read e → Unfinished q (operatorToken op position :: t.yield ++ read) e)
    (hd : Derives input bound p operand result) (ho : LeavesOnly input p operand) (count : Nat) :
    ∀ left, LeavesOnly input q (chain input precedence operand count left) := by
  induction count with
  | zero =>
    intro left c c' e he
    cases he
  | succ count ih =>
    intro left c c' e he hs
    obtain ⟨op, position, level, hop, hright | ⟨right, c₁, hright, hrest⟩⟩ := chain_eq_error he
    · exact (ho hright hs).after [operatorToken op position] hop (hnext op level position)
    obtain ⟨t, ht, -⟩ := hd hright
    rcases hrest with ⟨e', hvalue, hstop⟩ | ⟨next, hrest⟩
    · cases hstop
      rw [semantic_operate op left right _ hvalue] at hs
      cases hs
    · refine (ih next hrest hs).after (operatorToken op position :: t.yield) ?_
        (hlater op level position t)
      rw [hop, ht]
      rfl

/-- A list leaves an item unfinished, after a comma. -/
theorem items_leaves {item : Action Float} (hd : Derives input bound .expression item id)
    (hi : LeavesOnly input .expression item) (count : Nat) :
    LeavesOnly input .items (items input item count) := by
  induction count with
  | zero =>
    intro c c' e he
    cases he
  | succ count ih =>
    intro c c' e he hs
    obtain ⟨comma, hcomma, hv | ⟨v, c₁, hv, hitems⟩⟩ := items_eq_error he
    · exact (hi hv hs).after [comma.token .comma] hcomma (.item comma)
    · obtain ⟨t, ht, -⟩ := hd hv
      refine (ih hitems hs).after (comma.token .comma :: t.yield) ?_ (.laterItem comma t)
      rw [hcomma, ht]
      rfl

namespace RulesLeave

variable {calls : Nat} (r : RulesLeave input calls) (d : RulesDerive input bound calls)

section Levels

include r

theorem expression_succ : LeavesOnly input .expression (Parser.expression input (calls + 1)) :=
  fun he hs => (r.additive he hs).within .expression

theorem unary_succ : LeavesOnly input .unary (Parser.unary input (calls + 1)) := by
  intro c c' e he hs
  rw [Parser.unary] at he
  rcases bind_eq_error_iff.mp he with hpeek | ⟨token?, c₁, hpeek, he⟩
  · exact absurd hpeek peek_ne_error
  obtain ⟨rfl, htoken⟩ := peek_eq_ok hpeek
  cases token? with
  | none =>
    cases he
    exact .here (.unsigned (.base .missing)) htoken
  | some token =>
    simp only at he
    split at he
    · next hminus =>
      rcases bind_eq_error_iff.mp (advance_bind_eq_error he) with hv | ⟨v, c₂, -, he⟩
      · obtain ⟨lexeme, position⟩ := token
        obtain rfl : lexeme = .symbol .operator "-" := hminus
        exact (LeavesOnly.nested r.unary hv hs).after [operatorToken .minus position]
          (rest_eq_cons htoken) (.negation position)
      · cases he
    · exact (r.exponent he hs).within .unsigned

end Levels

include r d

theorem additive_succ : LeavesOnly input .additive (Parser.additive input (calls + 1)) := by
  intro c c' e he hs
  rw [Parser.additive] at he
  rcases bind_eq_error_iff.mp he with hfirst | ⟨left, c₁, hleft, he⟩
  · exact (r.multiplicative hfirst hs).within .additive
  obtain ⟨first, hf, -⟩ := d.multiplicative hleft
  rw [bind_apply, remaining_apply] at he
  exact (chain_leaves .sum .laterSum d.multiplicative r.multiplicative _ left he hs).after
    first.yield hf (.sums first)

theorem multiplicative_succ :
    LeavesOnly input .multiplicative (Parser.multiplicative input (calls + 1)) := by
  intro c c' e he hs
  rw [Parser.multiplicative] at he
  rcases bind_eq_error_iff.mp he with hfirst | ⟨left, c₁, hleft, he⟩
  · exact (r.unary hfirst hs).within .multiplicative
  obtain ⟨first, hf, -⟩ := d.unary hleft
  rw [bind_apply, remaining_apply] at he
  exact (chain_leaves .product .laterProduct d.unary r.unary _ left he hs).after
    first.yield hf (.products first)

theorem exponent_succ : LeavesOnly input .exponent (Parser.exponent input (calls + 1)) := by
  intro c c' e he hs
  rw [Parser.exponent] at he
  rcases bind_eq_error_iff.mp he with hbase | ⟨left, c₁, hleft, he⟩
  · exact (r.primary hbase hs).within .base
  obtain ⟨base, hb, -⟩ := d.primary hleft
  rcases bind_eq_error_iff.mp he with hop | ⟨op?, c₂, hop, he⟩
  · rw [operator?_apply] at hop
    cases hop
  obtain ⟨rfl, hop⟩ := operator?_eq_ok hop
  cases op? with
  | none => cases he
  | some op =>
    obtain ⟨level, position, hrest⟩ := hop op rfl
    rcases bind_eq_error_iff.mp (advance_bind_eq_error he) with hright | ⟨right, c₃, -, hvalue⟩
    · refine (LeavesOnly.nested r.unary hright hs).after
        (base.yield ++ [operatorToken op position]) ?_ fun hread => ?_
      · rw [hb, hrest, List.append_assoc]
        rfl
      · rw [List.append_assoc]
        exact .power base op level position hread
    · exact absurd hs (not_isSyntax_of_value (semantic_operate _ _ _) hvalue)

/-- A group is left unfinished inside of its parentheses, or without the closing one. -/
theorem group_leaves (hbound : input.bound = .whole bound) {text : String} {position : Int}
    (hrest : input.rest c = ⟨.symbol .openParen text, position⟩ :: input.rest (c.forward 1))
    (he : (do
      let v ← nested input (Parser.expression input calls)
      require input .closeParen .groupEnd
      return v : Action Float) (c.forward 1) = .error (.error e) c') (hs : e.isSyntax) :
    Leaves input .primary c c' e := by
  rcases bind_eq_error_iff.mp he with hinside | ⟨v, c₂, hinside, he⟩
  · exact (LeavesOnly.nested r.expression hinside hs).after [Mark.token .openParen ⟨text, position⟩]
      hrest (.group ⟨text, position⟩)
  · obtain ⟨t, ht, -⟩ := Derives.nested d.expression hbound hinside
    rcases bind_eq_error_iff.mp he with hclose | ⟨_, c₄, -, he⟩
    · obtain ⟨hstop, rfl⟩ := require_eq_error hclose
      cases hstop
      refine ⟨_, .groupEnd ⟨text, position⟩ t _, ?_, rfl⟩
      rw [hrest, ht]
      rfl
    · cases he

theorem primary_succ (hbound : input.bound = .whole bound) :
    LeavesOnly input .primary (Parser.primary input (calls + 1)) := by
  intro c c' e he hs
  rw [Parser.primary] at he
  rcases bind_eq_error_iff.mp he with hpeek | ⟨token?, c₁, hpeek, he⟩
  · exact absurd hpeek peek_ne_error
  obtain ⟨rfl, htoken⟩ := peek_eq_ok hpeek
  cases token? with
  | none =>
    cases he
    exact .here .missing htoken
  | some token =>
    have hrest := rest_eq_cons htoken
    obtain ⟨lexeme, position⟩ := token
    simp only at he
    split at he
    · cases advance_bind_eq_error he
    · exact absurd hs
        (not_isSyntax_of_value (semantic_constantValue _) (advance_bind_eq_error he))
    · next name =>
      have he := advance_bind_eq_error he
      cases hw : input.bindings.lookup name with
      | none =>
        rw [hw] at he
        cases he
        cases hs
      | some w =>
        rw [hw] at he
        cases he
    · next name =>
      rcases bind_eq_error_iff.mp (advance_bind_eq_error he) with hargs | ⟨args, c₂, -, hvalue⟩
      · exact (LeavesOnly.nested (r.arguments name) hargs hs).after [_] hrest (.call name position)
      · exact absurd hs (not_isSyntax_of_value (semantic_applyNamed _ _) hvalue)
    · exact r.group_leaves d hbound hrest (advance_bind_eq_error he) hs
    · cases he
      exact .here (.unexpected _) htoken

theorem arguments_succ (name : String) :
    LeavesOnly input .arguments (Parser.arguments input name (calls + 1)) := by
  intro c c' e he hs
  rw [Parser.arguments] at he
  rcases bind_eq_error_iff.mp he with hopen | ⟨_, c₁, hopen, he⟩
  · obtain ⟨hstop, rfl⟩ := require_eq_error hopen
    cases hstop
    exact .here (.callStart name _) rfl
  obtain ⟨rfl, opening, hopen⟩ := require_eq_ok hopen
  rw [bind_apply, at?_apply] at he
  simp only at he
  split at he
  · cases advance_bind_eq_error he
  rcases bind_eq_error_iff.mp he with hfirst | ⟨v, c₂, hfirst, he⟩
  · exact (r.expression hfirst hs).after [opening.token .openParen] hopen (.arguments opening)
  obtain ⟨first, hf, -⟩ := d.expression hfirst
  have hbefore : input.rest c = (opening.token .openParen :: first.yield) ++ input.rest c₂ := by
    rw [hopen, hf]
    rfl
  rw [bind_apply, remaining_apply] at he
  rcases bind_eq_error_iff.mp he with hitems | ⟨vs, c₃, hitems, he⟩
  · exact (items_leaves d.expression r.expression _ hitems hs).after _ hbefore
      (.items opening first)
  -- all items have been read, so it is the closing parenthesis that is missing
  obtain ⟨rest, hr, -⟩ := items_derive d.expression _ hitems
  rcases bind_eq_error_iff.mp he with hclose | ⟨_, c₄, -, he⟩
  · obtain ⟨hstop, rfl⟩ := require_eq_error hclose
    cases hstop
    refine ⟨_, .callEnd opening first rest _, ?_, rfl⟩
    rw [hbefore, hr, List.append_assoc]
  · cases he

end RulesLeave

/-- **The rules leave their parts unfinished,** in however many calls. -/
theorem rulesLeave (hbound : input.bound = .whole bound) (calls : Nat) :
    RulesLeave input calls := by
  induction calls with
  -- without a call a rule stops for want of it, which is no error
  | zero => constructor <;> intros <;> intro c c' e he <;> cases he
  | succ calls r =>
    have d := rulesDerive hbound calls
    exact {
      expression := r.expression_succ
      additive := r.additive_succ d
      multiplicative := r.multiplicative_succ d
      unary := r.unary_succ
      exponent := r.exponent_succ d
      primary := r.primary_succ d hbound
      arguments := r.arguments_succ d }

end Parser

end Reckon
