import Reckon.Grammar.Meaning
/-!
# Grammar — where the tokens stand

A position says where a token stands in the text and no more: tokens that
say the same at other places are derived by a tree of the same shape, which
is nested as deeply and means the same (`exists_relocated`).
-/

namespace Reckon

namespace Grammar

/-- A token that says the same as another is the other at its own place. -/
theorem eq_of_lexeme {token : Token} {lexeme : Lexeme} (h : token.lexeme = lexeme) :
    token = ⟨lexeme, token.position⟩ := by
  rw [← h]

/-- What says the same as a first part and a second one is made of two parts. -/
theorem exists_append_of_lexemes {ts first second : List Token}
    (h : ts.map (·.lexeme) = (first ++ second).map (·.lexeme)) : ∃ ts₁ ts₂, ts = ts₁ ++ ts₂ ∧
      ts₁.map (·.lexeme) = first.map (·.lexeme) ∧ ts₂.map (·.lexeme) = second.map (·.lexeme) := by
  rw [List.map_append] at h
  exact List.map_eq_append_iff.mp h

/-- What says the same as a token and others starts with such a token. -/
theorem exists_cons_of_lexemes {ts rest : List Token} {token : Token}
    (h : ts.map (·.lexeme) = (token :: rest).map (·.lexeme)) : ∃ position ts',
      ts = ⟨token.lexeme, position⟩ :: ts' ∧ ts'.map (·.lexeme) = rest.map (·.lexeme) := by
  rw [List.map_cons] at h
  obtain ⟨first, ts', rfl, hfirst, hrest⟩ := List.map_eq_cons_iff.mp h
  exact ⟨first.position, ts', by rw [← eq_of_lexeme hfirst], hrest⟩

variable {p : Part}

/-- **A tree is movable** where every token sequence that says the same is derived by a
tree that is nested as deeply and means the same. -/
def Tree.IsMovable (t : Tree p) : Prop :=
  ∀ ⦃ts : List Token⦄, ts.map (·.lexeme) = t.yield.map (·.lexeme) → ∃ t' : Tree p,
    t'.yield = ts ∧ t'.nesting = t.nesting ∧
      ∀ bindings gate depth, t'.meaning bindings gate depth = t.meaning bindings gate depth

-- every case compares the depth and the meaning of a node through those of its parts
attribute [local simp] Tree.nesting Tree.meaning

namespace Tree.IsMovable

/-! ## Sums and products -/

theorem expression {sum : Tree .additive} (hsum : sum.IsMovable) :
    (Tree.expression sum).IsMovable := by
  intro ts h
  obtain ⟨sum', hy, hn, hm⟩ := hsum h
  exact ⟨.expression sum', hy, hn, hm⟩

theorem additive {first : Tree .multiplicative} {rest : Tree .sums} (hfirst : first.IsMovable)
    (hrest : rest.IsMovable) : (Tree.additive first rest).IsMovable := by
  intro ts h
  obtain ⟨ts₁, ts₂, rfl, h₁, h₂⟩ := exists_append_of_lexemes h
  obtain ⟨first', rfl, hn₁, hm₁⟩ := hfirst h₁
  obtain ⟨rest', rfl, hn₂, hm₂⟩ := hrest h₂
  exact ⟨.additive first' rest', rfl, by simp [hn₁, hn₂],
    fun _ _ _ => by simp [hm₁, hm₂]; rfl⟩

theorem multiplicative {first : Tree .unary} {rest : Tree .products} (hfirst : first.IsMovable)
    (hrest : rest.IsMovable) : (Tree.multiplicative first rest).IsMovable := by
  intro ts h
  obtain ⟨ts₁, ts₂, rfl, h₁, h₂⟩ := exists_append_of_lexemes h
  obtain ⟨first', rfl, hn₁, hm₁⟩ := hfirst h₁
  obtain ⟨rest', rfl, hn₂, hm₂⟩ := hrest h₂
  exact ⟨.multiplicative first' rest', rfl, by simp [hn₁, hn₂],
    fun _ _ _ => by simp [hm₁, hm₂]; rfl⟩

theorem lastSum : Tree.lastSum.IsMovable := by
  intro ts h
  obtain rfl := List.map_eq_nil_iff.mp h
  exact ⟨.lastSum, rfl, rfl, fun _ _ _ => rfl⟩

theorem sum {op : Operator} {level : op.precedence = 2} {position : Int}
    {operand : Tree .multiplicative} {rest : Tree .sums} (hoperand : operand.IsMovable)
    (hrest : rest.IsMovable) : (Tree.sum op level position operand rest).IsMovable := by
  intro ts h
  obtain ⟨position', ts', rfl, h'⟩ := exists_cons_of_lexemes h
  obtain ⟨ts₁, ts₂, rfl, h₁, h₂⟩ := exists_append_of_lexemes h'
  obtain ⟨operand', rfl, hn₁, hm₁⟩ := hoperand h₁
  obtain ⟨rest', rfl, hn₂, hm₂⟩ := hrest h₂
  exact ⟨.sum op level position' operand' rest', rfl, by simp [hn₁, hn₂],
    fun _ _ _ => by simp [hm₁, hm₂]; rfl⟩

theorem lastProduct : Tree.lastProduct.IsMovable := by
  intro ts h
  obtain rfl := List.map_eq_nil_iff.mp h
  exact ⟨.lastProduct, rfl, rfl, fun _ _ _ => rfl⟩

theorem product {op : Operator} {level : op.precedence = 3} {position : Int}
    {operand : Tree .unary} {rest : Tree .products} (hoperand : operand.IsMovable)
    (hrest : rest.IsMovable) : (Tree.product op level position operand rest).IsMovable := by
  intro ts h
  obtain ⟨position', ts', rfl, h'⟩ := exists_cons_of_lexemes h
  obtain ⟨ts₁, ts₂, rfl, h₁, h₂⟩ := exists_append_of_lexemes h'
  obtain ⟨operand', rfl, hn₁, hm₁⟩ := hoperand h₁
  obtain ⟨rest', rfl, hn₂, hm₂⟩ := hrest h₂
  exact ⟨.product op level position' operand' rest', rfl, by simp [hn₁, hn₂],
    fun _ _ _ => by simp [hm₁, hm₂]; rfl⟩

/-! ## Signs and powers -/

theorem negation {position : Int} {operand : Tree .unary} (hoperand : operand.IsMovable) :
    (Tree.negation position operand).IsMovable := by
  intro ts h
  obtain ⟨position', ts', rfl, h'⟩ := exists_cons_of_lexemes h
  obtain ⟨operand', rfl, hn, hm⟩ := hoperand h'
  exact ⟨.negation position' operand', rfl, by simp [hn],
    fun _ _ _ => by simp [hm]; rfl⟩

theorem unsigned {power : Tree .exponent} (hpower : power.IsMovable) :
    (Tree.unsigned power).IsMovable := by
  intro ts h
  obtain ⟨power', hy, hn, hm⟩ := hpower h
  exact ⟨.unsigned power', hy, hn, hm⟩

theorem single {base : Tree .primary} (hbase : base.IsMovable) : (Tree.single base).IsMovable := by
  intro ts h
  obtain ⟨base', hy, hn, hm⟩ := hbase h
  exact ⟨.single base', hy, hn, hm⟩

theorem power {base : Tree .primary} {op : Operator} {level : op.precedence = 4} {position : Int}
    {exponent : Tree .unary} (hbase : base.IsMovable) (hexponent : exponent.IsMovable) :
    (Tree.power base op level position exponent).IsMovable := by
  intro ts h
  obtain ⟨ts₁, ts', rfl, h₁, h'⟩ := exists_append_of_lexemes h
  obtain ⟨position', ts₂, rfl, h₂⟩ := exists_cons_of_lexemes h'
  obtain ⟨base', rfl, hn₁, hm₁⟩ := hbase h₁
  obtain ⟨exponent', rfl, hn₂, hm₂⟩ := hexponent h₂
  exact ⟨.power base' op level position' exponent', rfl, by simp [hn₁, hn₂],
    fun _ _ _ => by simp [hm₁, hm₂]; rfl⟩

/-! ## Operands -/

theorem number {v : Float} {position : Int} : (Tree.number v position).IsMovable := by
  intro ts h
  obtain ⟨position', ts', rfl, h'⟩ := exists_cons_of_lexemes h
  obtain rfl := List.map_eq_nil_iff.mp h'
  exact ⟨.number v position', rfl, rfl, fun _ _ _ => rfl⟩

theorem constantName {name : String} {position : Int} :
    (Tree.constantName name position).IsMovable := by
  intro ts h
  obtain ⟨position', ts', rfl, h'⟩ := exists_cons_of_lexemes h
  obtain rfl := List.map_eq_nil_iff.mp h'
  exact ⟨.constantName name position', rfl, rfl, fun _ _ _ => rfl⟩

theorem variableName {name : String} {position : Int} :
    (Tree.variableName name position).IsMovable := by
  intro ts h
  obtain ⟨position', ts', rfl, h'⟩ := exists_cons_of_lexemes h
  obtain rfl := List.map_eq_nil_iff.mp h'
  exact ⟨.variableName name position', rfl, rfl, fun _ _ _ => rfl⟩

theorem call {name : String} {position : Int} {args : Tree .arguments} (hargs : args.IsMovable) :
    (Tree.call name position args).IsMovable := by
  intro ts h
  obtain ⟨position', ts', rfl, h'⟩ := exists_cons_of_lexemes h
  obtain ⟨args', rfl, hn, hm⟩ := hargs h'
  exact ⟨.call name position' args', rfl, by simp [hn],
    fun _ _ _ => by simp [hm]; rfl⟩

theorem group {opening closing : Mark} {inside : Tree .expression} (hinside : inside.IsMovable) :
    (Tree.group opening inside closing).IsMovable := by
  intro ts h
  obtain ⟨left, ts', rfl, h'⟩ := exists_cons_of_lexemes h
  obtain ⟨ts₁, ts₂, rfl, h₁, h₂⟩ := exists_append_of_lexemes h'
  obtain ⟨right, ts₃, rfl, h₃⟩ := exists_cons_of_lexemes h₂
  obtain rfl := List.map_eq_nil_iff.mp h₃
  obtain ⟨inside', rfl, hn, hm⟩ := hinside h₁
  exact ⟨.group ⟨opening.text, left⟩ inside' ⟨closing.text, right⟩, rfl,
    by simp [hn], fun _ _ _ => by simp [hm]; rfl⟩

/-! ## Arguments -/

theorem noArguments {opening closing : Mark} : (Tree.noArguments opening closing).IsMovable := by
  intro ts h
  obtain ⟨left, ts', rfl, h'⟩ := exists_cons_of_lexemes h
  obtain ⟨right, ts'', rfl, h''⟩ := exists_cons_of_lexemes h'
  obtain rfl := List.map_eq_nil_iff.mp h''
  exact ⟨.noArguments ⟨opening.text, left⟩ ⟨closing.text, right⟩, rfl, rfl, fun _ _ _ => rfl⟩

theorem arguments {opening closing : Mark} {first : Tree .expression} {rest : Tree .items}
    (hfirst : first.IsMovable) (hrest : rest.IsMovable) :
    (Tree.arguments opening first rest closing).IsMovable := by
  intro ts h
  obtain ⟨ts', ts₃, rfl, h', h₃⟩ := exists_append_of_lexemes h
  obtain ⟨right, ts₄, rfl, h₄⟩ := exists_cons_of_lexemes h₃
  obtain rfl := List.map_eq_nil_iff.mp h₄
  obtain ⟨ts₀, ts₂, rfl, h₀, h₂⟩ := exists_append_of_lexemes h'
  obtain ⟨left, ts₁, rfl, h₁⟩ := exists_cons_of_lexemes h₀
  obtain ⟨first', rfl, hn₁, hm₁⟩ := hfirst h₁
  obtain ⟨rest', rfl, hn₂, hm₂⟩ := hrest h₂
  exact ⟨.arguments ⟨opening.text, left⟩ first' rest' ⟨closing.text, right⟩, rfl,
    by simp [hn₁, hn₂],
    fun _ _ _ => by simp [hm₁, hm₂]; rfl⟩

theorem lastItem : Tree.lastItem.IsMovable := by
  intro ts h
  obtain rfl := List.map_eq_nil_iff.mp h
  exact ⟨.lastItem, rfl, rfl, fun _ _ _ => rfl⟩

theorem item {comma : Mark} {argument : Tree .expression} {rest : Tree .items}
    (hargument : argument.IsMovable) (hrest : rest.IsMovable) :
    (Tree.item comma argument rest).IsMovable := by
  intro ts h
  obtain ⟨position', ts', rfl, h'⟩ := exists_cons_of_lexemes h
  obtain ⟨ts₁, ts₂, rfl, h₁, h₂⟩ := exists_append_of_lexemes h'
  obtain ⟨argument', rfl, hn₁, hm₁⟩ := hargument h₁
  obtain ⟨rest', rfl, hn₂, hm₂⟩ := hrest h₂
  exact ⟨.item ⟨comma.text, position'⟩ argument' rest', rfl,
    by simp [hn₁, hn₂],
    fun _ _ _ => by simp [hm₁, hm₂]; rfl⟩

end Tree.IsMovable

/-! ## Trees -/

/-- **Tokens that say the same are derived alike:** by a tree that is nested as
deeply and means the same. -/
theorem exists_relocated (t : Tree p) : t.IsMovable := by
  -- on the tree: the tokens are cut where those of its parts are
  induction t with
  | expression sum ih => exact .expression ih
  | additive first rest ih₁ ih₂ => exact .additive ih₁ ih₂
  | multiplicative first rest ih₁ ih₂ => exact .multiplicative ih₁ ih₂
  | lastSum => exact .lastSum
  | sum op level position operand rest ih₁ ih₂ => exact .sum ih₁ ih₂
  | lastProduct => exact .lastProduct
  | product op level position operand rest ih₁ ih₂ => exact .product ih₁ ih₂
  | negation position operand ih => exact .negation ih
  | unsigned power ih => exact .unsigned ih
  | single base ih => exact .single ih
  | power base op level position exponent ih₁ ih₂ => exact .power ih₁ ih₂
  | number v position => exact .number
  | constantName name position => exact .constantName
  | variableName name position => exact .variableName
  | call name position args ih => exact .call ih
  | group opening inside closing ih => exact .group ih
  | noArguments opening closing => exact .noArguments
  | arguments opening first rest closing ih₁ ih₂ => exact .arguments ih₁ ih₂
  | lastItem => exact .lastItem
  | item comma argument rest ih₁ ih₂ => exact .item ih₁ ih₂

end Grammar

end Reckon
