import Reckon.Proofs.Parser.Outcome
/-!
# Grammar — reading what a tree derives

Where the tokens of a tree stand at the cursor, and nothing follows that
its part goes on with, the rule of that part does what the tree means under
the bound: it has the same value past exactly these tokens, or stops with
the same error (`Tree.reads`). The rules evaluate while they read, so this
is one induction over the tree: operands before operations, and the gate of
a nested part before the part.
-/

namespace Reckon

namespace Grammar

open Reckon.Parser

/-- What reads a part: a rule, with the number of repetitions it may try and
the value before them, or the name of the function of the arguments. -/
def Part.Reader : Part → Type
  | .sums | .products => (count : Nat) → Float → Action Float
  | .arguments => (name : String) → Action (List Float)
  | .items => (count : Nat) → Action (List Float)
  | _ => Action Float

/-- The reader of a part in so many calls. -/
def Part.reader (input : Input) (calls : Nat) : (p : Part) → p.Reader
  | .expression => Parser.expression input calls
  | .additive => Parser.additive input calls
  | .sums => Parser.chain input 2 (Parser.multiplicative input calls)
  | .multiplicative => Parser.multiplicative input calls
  | .products => Parser.chain input 3 (Parser.unary input calls)
  | .unary => Parser.unary input calls
  | .exponent => Parser.exponent input calls
  | .primary => Parser.primary input calls
  | .arguments => fun name => Parser.arguments input name calls
  | .items => Parser.items input (Parser.expression input calls)

/-- What a reader gives where a part has a meaning: repetitions that may try
as many times as there are tokens go on from every value. -/
def Part.Gives : (p : Part) → p.Reader → Cursor → (taken : Nat) → p.Meaning → Prop
  | .expression, a, c, n, m | .additive, a, c, n, m | .multiplicative, a, c, n, m
  | .unary, a, c, n, m | .exponent, a, c, n, m | .primary, a, c, n, m => Parser.Gives a c n m
  | .sums, a, c, n, m | .products, a, c, n, m =>
    ∀ count left, n ≤ count → Parser.Gives (a count left) c n (m left)
  | .arguments, a, c, n, m => ∀ name, Parser.Gives (a name) c n m
  | .items, a, c, n, m => ∀ count, n ≤ count → Parser.Gives (a count) c n m

namespace Tree

variable {bound : Nat} {input : Input} {p : Part}

/-- **A tree is read,** in however many calls, where the reader of its part gives
what it means: its tokens stand at the cursor, and its part has ended after them. -/
def IsRead (input : Input) (bound : Nat) (t : Tree p) : Prop :=
  ∀ (calls : Nat) {c : Cursor} {post : List Token}, input.rest c = t.yield ++ post → p.Ends post →
    p.Gives (p.reader input calls) c t.yield.length
      (t.meaning input.bindings (withinBound bound) c.depth)

namespace IsRead

/-! ## Sums and products -/

theorem expression {sum : Tree .additive} (hsum : sum.IsRead input bound) :
    (Tree.expression sum).IsRead input bound := by
  intro calls c post h he
  cases calls with
  | zero => trivial
  | succ calls => exact hsum calls h he

theorem additive {first : Tree .multiplicative} {rest : Tree .sums}
    (hfirst : first.IsRead input bound) (hrest : rest.IsRead input bound) :
    (Tree.additive first rest).IsRead input bound := by
  intro calls c post h he
  cases calls with
  | zero => trivial
  | succ calls =>
    simp only [yield, List.append_assoc] at h
    simp only [Part.Gives, Part.reader, yield, List.length_append, meaning]
    rw [Parser.additive]
    refine Gives.bind (hfirst calls h (sums_end rest he)) fun left _ => ?_
    have hnext := Input.rest_forward_length h
    exact Gives.remaining hnext fun count hcount => hrest calls hnext he count left hcount

theorem multiplicative {first : Tree .unary} {rest : Tree .products}
    (hfirst : first.IsRead input bound) (hrest : rest.IsRead input bound) :
    (Tree.multiplicative first rest).IsRead input bound := by
  intro calls c post h he
  cases calls with
  | zero => trivial
  | succ calls =>
    simp only [yield, List.append_assoc] at h
    simp only [Part.Gives, Part.reader, yield, List.length_append, meaning]
    rw [Parser.multiplicative]
    refine Gives.bind (hfirst calls h (products_end rest he)) fun left _ => ?_
    have hnext := Input.rest_forward_length h
    exact Gives.remaining hnext fun count hcount => hrest calls hnext he count left hcount

theorem lastSum : Tree.lastSum.IsRead input bound := by
  intro calls c post h he count left _
  obtain rfl : input.rest c = post := h
  exact Gives.chain_end (operator?_ended he) count left

theorem lastProduct : Tree.lastProduct.IsRead input bound := by
  intro calls c post h he count left _
  obtain rfl : input.rest c = post := h
  exact Gives.chain_end (operator?_ended he) count left

theorem sum {op : Operator} {level : op.precedence = 2} {position : Int}
    {operand : Tree .multiplicative} {rest : Tree .sums}
    (hoperand : operand.IsRead input bound) (hrest : rest.IsRead input bound) :
    (Tree.sum op level position operand rest).IsRead input bound := by
  intro calls c post h he count left hcount
  simp only [yield, List.cons_append, List.append_assoc] at h
  simp only [yield, List.cons_append, List.length_cons, List.length_append] at hcount ⊢
  obtain ⟨count, rfl⟩ : ∃ n, count = n + 1 := ⟨count - 1, by omega⟩
  have hpast := Input.rest_forward_one h
  have hnext := Input.rest_forward_length hpast
  rw [Cursor.forward_forward] at hnext
  -- the chain goes by precedence, which the tree says of its operator
  rw [Part.reader, ← level]
  refine Gives.chain (operator?_seen h) (hoperand calls hpast (sums_end rest he)) fun next => ?_
  rw [level]
  exact hrest calls hnext he count next (by omega)

theorem product {op : Operator} {level : op.precedence = 3} {position : Int}
    {operand : Tree .unary} {rest : Tree .products}
    (hoperand : operand.IsRead input bound) (hrest : rest.IsRead input bound) :
    (Tree.product op level position operand rest).IsRead input bound := by
  intro calls c post h he count left hcount
  simp only [yield, List.cons_append, List.append_assoc] at h
  simp only [yield, List.cons_append, List.length_cons, List.length_append] at hcount ⊢
  obtain ⟨count, rfl⟩ : ∃ n, count = n + 1 := ⟨count - 1, by omega⟩
  have hpast := Input.rest_forward_one h
  have hnext := Input.rest_forward_length hpast
  rw [Cursor.forward_forward] at hnext
  rw [Part.reader, ← level]
  refine Gives.chain (operator?_seen h) (hoperand calls hpast (products_end rest he)) fun next => ?_
  rw [level]
  exact hrest calls hnext he count next (by omega)

/-! ## Signs and powers -/

theorem negation {position : Int} {operand : Tree .unary} (hbound : input.bound = .whole bound)
    (hoperand : operand.IsRead input bound) :
    (Tree.negation position operand).IsRead input bound := by
  intro calls c post h he
  cases calls with
  | zero => trivial
  | succ calls =>
    simp only [yield, List.cons_append] at h
    simp only [Part.Gives, Part.reader, yield, List.length_cons, meaning]
    rw [Parser.unary]
    refine Gives.look peek_apply ?_
    rw [h]
    refine Gives.past advance_apply ?_
    have hinside := hoperand calls (c := (c.forward 1).inside) (Input.rest_forward_one h) he
    exact Gives.nested_bind hbound hinside fun v => Gives.pure (-v)

theorem unsigned {power : Tree .exponent} (hpower : power.IsRead input bound) :
    (Tree.unsigned power).IsRead input bound := by
  intro calls c post h he
  cases calls with
  | zero => trivial
  | succ calls =>
    simp only [Part.Gives, Part.reader]
    rw [Parser.unary]
    obtain ⟨token, htoken, hop⟩ := exponent_head power post
    have hpeek : peek input c = .ok (some token) c := by
      rw [peek_apply, h]
      exact congrArg (EStateM.Result.ok · c) htoken
    -- the rule for a sign passes on, as a power starts with no operator
    have hminus : token.lexeme ≠ .symbol .operator "-" := by
      intro hl
      rw [Token.operator?, hl] at hop
      exact absurd hop (by decide)
    refine Gives.look hpeek ?_
    simp only [if_neg hminus]
    exact hpower calls h he

theorem single {base : Tree .primary} (hbase : base.IsRead input bound) :
    (Tree.single base).IsRead input bound := by
  intro calls c post h he
  cases calls with
  | zero => trivial
  | succ calls =>
    simp only [Part.Gives, Part.reader, yield, meaning]
    rw [Parser.exponent, ← bind_pure (meaning _ _ base _)]
    refine Gives.bind (n := 0) (hbase calls h (he.mono (by decide) (by decide))) fun v _ => ?_
    have hend : input.rest (c.forward base.yield.length) = post := Input.rest_forward_length h
    -- no power is seen, for the part has ended at this cursor
    have hnone := operator?_ended (p := .exponent) (hend.symm ▸ he)
    exact Gives.look hnone (Gives.pure v)

theorem power {base : Tree .primary} {op : Operator} {level : op.precedence = 4} {position : Int}
    {exponent : Tree .unary} (hbound : input.bound = .whole bound)
    (hbase : base.IsRead input bound) (hexponent : exponent.IsRead input bound) :
    (Tree.power base op level position exponent).IsRead input bound := by
  intro calls c post h he
  cases calls with
  | zero => trivial
  | succ calls =>
    simp only [yield, List.append_assoc, List.cons_append] at h
    simp only [Part.Gives, Part.reader, yield, List.length_append, List.length_cons, meaning]
    rw [Parser.exponent]
    refine Gives.bind (hbase calls h (primary_ends level)) fun left _ => ?_
    have hop := Input.rest_forward_length h
    refine Gives.look (level ▸ operator?_seen hop) (Gives.past advance_apply ?_)
    have hinside := hexponent calls (c := ((c.forward base.yield.length).forward 1).inside)
      (Input.rest_forward_one hop) he
    exact Gives.nested_bind hbound hinside fun right => Gives.value (operate op left right)

/-! ## Operands -/

theorem number {v : Float} {position : Int} : (Tree.number v position).IsRead input bound := by
  intro calls c post h he
  cases calls with
  | zero => trivial
  | succ calls =>
    simp only [Part.Gives, Part.reader]
    rw [Parser.primary]
    refine Gives.look peek_apply ?_
    rw [h]
    exact Gives.past advance_apply (Gives.pure v)

theorem constantName {name : String} {position : Int} :
    (Tree.constantName name position).IsRead input bound := by
  intro calls c post h he
  cases calls with
  | zero => trivial
  | succ calls =>
    simp only [Part.Gives, Part.reader]
    rw [Parser.primary]
    refine Gives.look peek_apply ?_
    rw [h]
    exact Gives.past advance_apply (Gives.value (constantValue name))

theorem variableName {name : String} {position : Int} :
    (Tree.variableName name position).IsRead input bound := by
  intro calls c post h he
  cases calls with
  | zero => trivial
  | succ calls =>
    simp only [Part.Gives, Part.reader, meaning, boundValue]
    rw [Parser.primary]
    refine Gives.look peek_apply ?_
    rw [h]
    refine Gives.past advance_apply (n := 0) ?_
    cases input.bindings.lookup name with
    | some v => exact Gives.pure v
    | none => exact Gives.fail _

theorem call {name : String} {position : Int} {args : Tree .arguments}
    (hbound : input.bound = .whole bound) (hargs : args.IsRead input bound) :
    (Tree.call name position args).IsRead input bound := by
  intro calls c post h he
  cases calls with
  | zero => trivial
  | succ calls =>
    simp only [yield, List.cons_append] at h
    simp only [Part.Gives, Part.reader, yield, List.length_cons, meaning]
    rw [Parser.primary]
    refine Gives.look peek_apply ?_
    rw [h]
    refine Gives.past advance_apply ?_
    have hinside := hargs calls (c := (c.forward 1).inside) (Input.rest_forward_one h)
      (he.mono (by decide) (by decide)) name
    exact Gives.nested_bind hbound hinside fun vs => Gives.value (applyNamed name vs)

theorem group {opening closing : Mark} {inside : Tree .expression}
    (hbound : input.bound = .whole bound) (hin : inside.IsRead input bound) :
    (Tree.group opening inside closing).IsRead input bound := by
  intro calls c post h he
  cases calls with
  | zero => trivial
  | succ calls =>
    simp only [yield, List.cons_append, List.append_assoc, List.nil_append] at h
    simp only [Part.Gives, Part.reader, yield, List.length_cons, List.cons_append,
      List.length_append, List.length_nil, meaning]
    rw [Parser.primary]
    refine Gives.look peek_apply ?_
    rw [h]
    refine Gives.past advance_apply ?_
    have hopened := Input.rest_forward_one h
    have hinside := hin calls (c := (c.forward 1).inside) hopened (Part.ends_closeParen closing)
    have hclosing := Input.rest_forward_length hopened
    rw [← bind_pure (meaning _ _ inside _)]
    exact Gives.nested_bind (n := 1) hbound hinside fun v =>
      Gives.past (require_mark hclosing) (Gives.pure v)

/-! ## Arguments -/

theorem noArguments {opening closing : Mark} :
    (Tree.noArguments opening closing).IsRead input bound := by
  intro calls c post h he name
  cases calls with
  | zero => trivial
  | succ calls =>
    simp only [yield, List.cons_append, List.nil_append] at h
    simp only [Part.reader]
    rw [Parser.arguments]
    have hclosing := Input.rest_forward_one h
    refine Gives.past (require_mark h) (Gives.look (at?_mark hclosing) ?_)
    exact Gives.past advance_apply (Gives.pure [])

theorem arguments {opening closing : Mark} {first : Tree .expression} {rest : Tree .items}
    (hfirst : first.IsRead input bound) (hrest : rest.IsRead input bound) :
    (Tree.arguments opening first rest closing).IsRead input bound := by
  intro calls c post h he name
  cases calls with
  | zero => trivial
  | succ calls =>
    simp only [yield, List.cons_append, List.append_assoc, List.nil_append] at h
    simp only [Part.reader, yield, List.length_cons, List.cons_append,
      List.length_append, List.length_nil, meaning]
    rw [Parser.arguments]
    have hopened := Input.rest_forward_one h
    have hnext := Input.rest_forward_length hopened
    have hclosing := Input.rest_forward_length hnext
    have hend : Part.items.Ends (closing.token .closeParen :: post) :=
      Part.ends_closeParen closing
    refine Gives.past (require_mark h) (Gives.look (at?_expression hopened) ?_)
    simp only [Bool.false_eq_true, if_false, Nat.add_assoc]
    refine Gives.bind (hfirst calls hopened (items_end rest hend)) fun v _ => ?_
    refine Gives.remaining hnext fun count hcount => ?_
    refine Gives.bind (hrest calls hnext hend count hcount) fun vs _ => ?_
    exact Gives.past (require_mark hclosing) (Gives.pure (v :: vs))

theorem lastItem : Tree.lastItem.IsRead input bound := by
  intro calls c post h he count _
  obtain rfl : input.rest c = post := h
  exact Gives.items_end (at?_ended he) count

theorem item {comma : Mark} {argument : Tree .expression} {rest : Tree .items}
    (hargument : argument.IsRead input bound) (hrest : rest.IsRead input bound) :
    (Tree.item comma argument rest).IsRead input bound := by
  intro calls c post h he count hcount
  simp only [yield, List.cons_append, List.append_assoc] at h
  simp only [yield, List.cons_append, List.length_cons, List.length_append] at hcount ⊢
  obtain ⟨count, rfl⟩ : ∃ n, count = n + 1 := ⟨count - 1, by omega⟩
  have hpast := Input.rest_forward_one h
  have hnext := Input.rest_forward_length hpast
  rw [Cursor.forward_forward] at hnext
  exact Gives.items (at?_mark h) (hargument calls hpast (items_end rest he))
    (hrest calls hnext he count (by omega))

end IsRead

/-! ## Trees -/

/-- **A rule gives what a tree means** where the tokens of the tree stand and
its part has ended after them. -/
theorem reads (hbound : input.bound = .whole bound) (t : Tree p) : t.IsRead input bound := by
  -- on the tree: what is read of a part leaves the cursor where the next part stands
  induction t with
  | expression sum ih => exact .expression ih
  | additive first rest ih₁ ih₂ => exact .additive ih₁ ih₂
  | lastSum => exact .lastSum
  | sum op level position operand rest ih₁ ih₂ => exact .sum ih₁ ih₂
  | multiplicative first rest ih₁ ih₂ => exact .multiplicative ih₁ ih₂
  | lastProduct => exact .lastProduct
  | product op level position operand rest ih₁ ih₂ => exact .product ih₁ ih₂
  | negation position operand ih => exact .negation hbound ih
  | unsigned power ih => exact .unsigned ih
  | single base ih => exact .single ih
  | power base op level position exponent ih₁ ih₂ => exact .power hbound ih₁ ih₂
  | number v position => exact .number
  | constantName name position => exact .constantName
  | variableName name position => exact .variableName
  | call name position args ih => exact .call hbound ih
  | group opening inside closing ih => exact .group hbound ih
  | noArguments opening closing => exact .noArguments
  | arguments opening first rest closing ih₁ ih₂ => exact .arguments ih₁ ih₂
  | lastItem => exact .lastItem
  | item comma argument rest ih₁ ih₂ => exact .item ih₁ ih₂

end Tree

end Grammar

end Reckon
