import Reckon.Proofs.Grammar.Reading
import Reckon.Proofs.Grammar.Relocated
import Reckon.Proofs.Grammar.Series
/-!
# Grammar — the levels are the table of precedence

The grammar never asks the table of precedence, but has a level for each
precedence, folds two of them to the left and lets the third one recur to the
right. A series of numbers comes to the same by the levels as by the table
(`outcome_series`): every split by the table is the top of a tree of its level.
-/

namespace Reckon

namespace Grammar

open Operator

namespace Series

/-- **A series is a part** where a tree of the part derives it, nested no more
than its powers are, and means its value. -/
def IsPart (s : Series) (p : Part) (result : p.Meaning → Except Error Float) : Prop :=
  ∃ t : Tree p, t.yield.map (·.lexeme) = s.lexemes ∧ t.nesting ≤ longestRun s.operators ∧
    ∀ bindings depth, result (t.meaning bindings (fun _ => .ok ()) depth) = s.value

theorem lexemes_append (u v : Float) (op : Operator) (before after : List (Operator × Float)) :
    lexemes ⟨u, before ++ (op, v) :: after⟩ =
      lexemes ⟨u, before⟩ ++ .symbol .operator op.spelling :: lexemes ⟨v, after⟩ := by
  simp [lexemes]

theorem operators_append (u v : Float) (op : Operator) (before after : List (Operator × Float)) :
    operators ⟨u, before ++ (op, v) :: after⟩ =
      operators ⟨u, before⟩ ++ op :: operators ⟨v, after⟩ := by
  simp [operators]

/-- Neither side of a split has a longer run than the whole. -/
theorem longestRun_append (u v : Float) (op : Operator) (before after : List (Operator × Float)) :
    longestRun (operators ⟨u, before⟩) ≤ longestRun (operators ⟨u, before ++ (op, v) :: after⟩) ∧
      longestRun (operators ⟨v, after⟩) ≤
        longestRun (operators ⟨u, before ++ (op, v) :: after⟩) := by
  rw [operators_append]
  refine ⟨longestRun_le_append_left _ _, ?_⟩
  have hafter := longestRun_le_append_right [op] (operators ⟨v, after⟩)
  exact Nat.le_trans hafter (longestRun_le_append_right _ _)

/-- One more product at the end of a sum. -/
theorem exists_further_sum (op : Operator) (level : op.precedence = 2)
    (operand : Tree .multiplicative) : (rest : Tree .sums) → ∃ more : Tree .sums,
    more.yield.map (·.lexeme) =
        rest.yield.map (·.lexeme) ++ .symbol .operator op.spelling :: operand.yield.map (·.lexeme) ∧
      more.nesting = max rest.nesting operand.nesting ∧
      ∀ bindings gate depth left, more.meaning bindings gate depth left = (do
        let v ← rest.meaning bindings gate depth left
        let w ← operand.meaning bindings gate depth
        Parser.operate op v w : Except Error Float)
  | .lastSum => by
    refine ⟨.sum op level 0 operand .lastSum, ?_, ?_, fun bindings gate depth left => ?_⟩
    · simp [Tree.yield, operatorToken]
    · simp [Tree.nesting]
    · exact bind_congr (m := Except Error) fun w => bind_pure _
  | .sum op' level' position operand' rest => by
    obtain ⟨more, hy, hn, hm⟩ := exists_further_sum op level operand rest
    refine ⟨.sum op' level' position operand' more, ?_, ?_, fun bindings gate depth left => ?_⟩
    · simp [Tree.yield, operatorToken, hy]
    · simp only [Tree.nesting, hn]
      omega
    · simp only [Tree.meaning, hm]
      exact ((bind_assoc _ _ _).trans (bind_congr fun w => bind_assoc _ _ _)).symm

/-- One more factor at the end of a product. -/
theorem exists_further_product (op : Operator) (level : op.precedence = 3)
    (operand : Tree .unary) : (rest : Tree .products) → ∃ more : Tree .products,
    more.yield.map (·.lexeme) =
        rest.yield.map (·.lexeme) ++ .symbol .operator op.spelling :: operand.yield.map (·.lexeme) ∧
      more.nesting = max rest.nesting operand.nesting ∧
      ∀ bindings gate depth left, more.meaning bindings gate depth left = (do
        let v ← rest.meaning bindings gate depth left
        let w ← operand.meaning bindings gate depth
        Parser.operate op v w : Except Error Float)
  | .lastProduct => by
    refine ⟨.product op level 0 operand .lastProduct, ?_, ?_, fun bindings gate depth left => ?_⟩
    · simp [Tree.yield, operatorToken]
    · simp [Tree.nesting]
    · exact bind_congr (m := Except Error) fun w => bind_pure _
  | .product op' level' position operand' rest => by
    obtain ⟨more, hy, hn, hm⟩ := exists_further_product op level operand rest
    refine ⟨.product op' level' position operand' more, ?_, ?_, fun bindings gate depth left => ?_⟩
    · simp [Tree.yield, operatorToken, hy]
    · simp only [Tree.nesting, hn]
      omega
    · simp only [Tree.meaning, hm]
      exact ((bind_assoc _ _ _).trans (bind_congr fun w => bind_assoc _ _ _)).symm

/-- A bound below all operators of a series is below those of both sides. -/
theorem le_precedence_append {u v : Float} {op : Operator}
    {before after : List (Operator × Float)} {q : Nat}
    (h : ∀ o ∈ operators ⟨u, before ++ (op, v) :: after⟩, q ≤ o.precedence) :
    (∀ o ∈ operators ⟨u, before⟩, q ≤ o.precedence) ∧ q ≤ op.precedence ∧
      ∀ o ∈ operators ⟨v, after⟩, q ≤ o.precedence := by
  rw [operators_append] at h
  exact ⟨fun o ho => h o (List.mem_append_left _ ho),
    h op (List.mem_append_right _ List.mem_cons_self),
    fun o ho => h o (List.mem_append_right _ (List.mem_cons_of_mem _ ho))⟩

/-- **A series is split at its level:** where its operators start at a precedence,
that is the precedence of the split. -/
theorem exists_split_at {s : Series} {q : Nat} (h : ∀ op ∈ s.operators, q ≤ op.precedence)
    (hleast : ¬ ∀ op ∈ s.operators, q + 1 ≤ op.precedence) : ∃ before op v after,
    s.rest = before ++ (op, v) :: after ∧ op.precedence = q ∧
      Splits (before.map (·.1)) op (after.map (·.1)) ∧
      s.value = (do
        let left ← value ⟨s.first, before⟩
        let right ← value ⟨v, after⟩
        Parser.operate op left right) := by
  obtain ⟨u, rest⟩ := s
  have hrest : rest ≠ [] := by
    rintro rfl
    exact hleast fun op hop => absurd hop List.not_mem_nil
  obtain ⟨before, op, v, after, hcut, hsplits, hvalue⟩ := exists_split ⟨u, rest⟩ hrest
  simp only at hcut
  subst hcut
  refine ⟨before, op, v, after, rfl, ?_, hsplits, hvalue⟩
  have hge := (le_precedence_append h).2.1
  by_contra hne
  -- else all operators would be above the precedence, as they are not below the split
  refine hleast fun other hother => ?_
  rw [operators_append] at hother
  rcases List.mem_append.mp hother with hb | ha
  · have := hsplits.least_before other hb
    omega
  · rcases List.mem_cons.mp ha with rfl | ha
    · omega
    · have := hsplits.least_after other ha
      omega

/-- **Powers in a row are one power:** each is the right operand of the one
before it. -/
theorem isPart_exponent (s : Series) (h : ∀ op ∈ s.operators, 4 ≤ op.precedence) :
    s.IsPart .exponent id := by
  induction hn : s.rest.length using Nat.strongRecOn generalizing s with
  | _ n ih =>
    obtain ⟨u, rest⟩ := s
    by_cases hrest : rest = []
    · subst hrest
      exact ⟨.single (.number u 0), rfl, Nat.zero_le _, fun _ _ => (value_nil u).symm⟩
    · obtain ⟨before, op, v, after, hcut, hsplits, hvalue⟩ := exists_split ⟨u, rest⟩ hrest
      simp only at hcut hn
      subst hcut
      obtain ⟨-, hop, hafter⟩ := le_precedence_append h
      have level : op.precedence = 4 := Nat.le_antisymm op.precedence_bounds.2 hop
      -- nothing binds more tightly than a power, so the split is at the first of them
      have hnil : before = [] := by
        rw [List.eq_nil_iff_forall_not_mem]
        intro step hstep
        have := hsplits.leftmost (rightAssociative_iff.mpr level) _ (List.mem_map_of_mem hstep)
        have := step.1.precedence_bounds
        omega
      subst hnil
      simp only [List.nil_append, List.length_cons] at hn h hvalue ⊢
      obtain ⟨power, hy, hnesting, hm⟩ := ih after.length (by omega) ⟨v, after⟩ hafter rfl
      refine ⟨.power (.number u 0) op level 0 (.unsigned power), ?_, ?_, fun bindings depth => ?_⟩
      · simp [Tree.yield, operatorToken, hy, lexemes]
      · have hright : ∀ o ∈ operators ⟨u, (op, v) :: after⟩, o.rightAssociative = true :=
          fun o ho => rightAssociative_iff.mpr (Nat.le_antisymm o.precedence_bounds.2 (h o ho))
        have hrun := length_le_longestRun hright
        have hlength := longestRun_le_length (operators ⟨v, after⟩)
        simp only [operators, List.map_cons, List.length_cons, List.length_map] at *
        simp only [Tree.nesting]
        omega
      · rw [hvalue, value_nil]
        exact congrArg (· >>= Parser.operate op u) (hm bindings (depth + 1))

/-- **A level folds to the left** over what binds more tightly: where an operand
stands for itself, and an operator takes what is before it for its left operand,
a series of the level is the part of that level. -/
theorem isPart_of_operands {whole operand : Part} {result : whole.Meaning → Except Error Float}
    {result' : operand.Meaning → Except Error Float} {q : Nat} (hq : q ≠ 4)
    (single : ∀ s : Series, s.IsPart operand result' → s.IsPart whole result)
    (join : ∀ {u v : Float} {op : Operator} {before after : List (Operator × Float)},
      op.precedence = q → IsPart ⟨u, before⟩ whole result → IsPart ⟨v, after⟩ operand result' →
      value ⟨u, before ++ (op, v) :: after⟩ = (do
        let left ← value ⟨u, before⟩
        let right ← value ⟨v, after⟩
        Parser.operate op left right) →
      IsPart ⟨u, before ++ (op, v) :: after⟩ whole result)
    (operands : ∀ s : Series, (∀ op ∈ s.operators, q + 1 ≤ op.precedence) →
      s.IsPart operand result')
    (s : Series) (h : ∀ op ∈ s.operators, q ≤ op.precedence) : s.IsPart whole result := by
  induction hn : s.rest.length using Nat.strongRecOn generalizing s with
  | _ n ih =>
    by_cases htight : ∀ op ∈ s.operators, q + 1 ≤ op.precedence
    · exact single s (operands s htight)
    · obtain ⟨u, rest⟩ := s
      obtain ⟨before, op, v, after, hcut, level, hsplits, hvalue⟩ := exists_split_at h htight
      simp only at hcut hn
      subst hcut
      rw [List.length_append, List.length_cons] at hn
      have hbefore := (le_precedence_append h).1
      refine join level (ih before.length (by omega) ⟨u, before⟩ hbefore rfl) ?_ hvalue
      -- the operator groups to the left, so all that is right of it binds more tightly
      have hgroups : op.rightAssociative = false := by
        rw [← Bool.not_eq_true, rightAssociative_iff]
        omega
      refine operands ⟨v, after⟩ fun o ho => ?_
      have := hsplits.rightmost hgroups o ho
      omega

/-- **Products fold to the left** over the powers between them. -/
theorem isPart_multiplicative (s : Series) (h : ∀ op ∈ s.operators, 3 ≤ op.precedence) :
    s.IsPart .multiplicative id := by
  refine isPart_of_operands (by decide) ?_ ?_ isPart_exponent s h
  · rintro s ⟨power, hy, hnesting, hm⟩
    refine ⟨.multiplicative (.unsigned power) .lastProduct, ?_, ?_, fun bindings depth => ?_⟩
    · simpa [Tree.yield] using hy
    · simpa [Tree.nesting] using hnesting
    · exact (bind_pure _).trans (hm bindings depth)
  · rintro u v op before after level ⟨left, hy₁, hn₁, hm₁⟩ ⟨power, hy₂, hn₂, hm₂⟩ hvalue
    obtain ⟨hrun₁, hrun₂⟩ := longestRun_append u v op before after
    cases left with
    | multiplicative first factors =>
      obtain ⟨more, hy, hnesting, hm⟩ := exists_further_product op level (.unsigned power) factors
      refine ⟨.multiplicative first more, ?_, ?_, fun bindings depth => ?_⟩
      · rw [lexemes_append, ← hy₁, ← hy₂]
        simp [Tree.yield, hy]
      · simp only [Tree.nesting, hnesting] at hn₁ ⊢
        omega
      · rw [hvalue, ← hm₁ bindings depth, ← hm₂ bindings depth]
        exact (bind_congr fun left => hm _ _ _ left).trans (bind_assoc _ _ _).symm

/-- **Sums fold to the left** over the products between them. -/
theorem isPart_additive (s : Series) : s.IsPart .additive id := by
  refine isPart_of_operands (by decide) ?_ ?_ isPart_multiplicative s
    fun op _ => op.precedence_bounds.1
  · rintro s ⟨product, hy, hnesting, hm⟩
    refine ⟨.additive product .lastSum, ?_, ?_, fun bindings depth => ?_⟩
    · simpa [Tree.yield] using hy
    · simpa [Tree.nesting] using hnesting
    · exact (bind_pure _).trans (hm bindings depth)
  · rintro u v op before after level ⟨left, hy₁, hn₁, hm₁⟩ ⟨product, hy₂, hn₂, hm₂⟩ hvalue
    obtain ⟨hrun₁, hrun₂⟩ := longestRun_append u v op before after
    cases left with
    | additive first products =>
      obtain ⟨more, hy, hnesting, hm⟩ := exists_further_sum op level product products
      refine ⟨.additive first more, ?_, ?_, fun bindings depth => ?_⟩
      · rw [lexemes_append, ← hy₁, ← hy₂]
        simp [Tree.yield, hy]
      · simp only [Tree.nesting, hnesting] at hn₁ ⊢
        omega
      · rw [hvalue, ← hm₁ bindings depth, ← hm₂ bindings depth]
        exact (bind_congr fun left => hm _ _ _ left).trans (bind_assoc _ _ _).symm

end Series

/-- **The levels of the grammar are the table of precedence.** A series of
numbers comes to its value by the table, under every nesting bound that its
powers keep within; and nothing but a quotient by zero stops it. -/
theorem outcome_series (s : Series) (ts : List Token) (bindings : Bindings) (bound : Nat)
    (hts : ts.map (·.lexeme) = s.lexemes) (hleast : 1 ≤ bound) (hgreatest : bound ≤ 114)
    (hrun : longestRun s.operators ≤ bound) :
    Parser.outcome ts bindings (.whole bound) = s.value ∧
      ∀ e, s.value = .error e → e = .divisionByZero := by
  refine ⟨?_, fun e he => s.eq_divisionByZero he⟩
  obtain ⟨sum, hy, hnesting, hm⟩ := s.isPart_additive
  obtain ⟨t, rfl, hn, ht⟩ := exists_relocated (.expression sum) (hts.trans hy.symm)
  have hwithin : t.nesting ≤ bound := by
    rw [hn]
    exact Nat.le_trans hnesting hrun
  rw [t.outcome_yield hleast hgreatest, Tree.valueWithin_eq_value hwithin]
  exact (ht _ _ _).trans (hm bindings 0)

/-- The series `2-3-4**5^0/6`. -/
def mixedSeries : Series :=
  ⟨2, [(.minus, 3), (.minus, 4), (.stars, 5), (.caret, 0), (.divide, 6)]⟩

/-- Its tokens. -/
def mixedTokens : List Token :=
  [⟨.number 2, 0⟩, operatorToken .minus 1, ⟨.number 3, 2⟩, operatorToken .minus 3, ⟨.number 4, 4⟩,
    operatorToken .stars 5, ⟨.number 5, 7⟩, operatorToken .caret 8, ⟨.number 0, 9⟩,
    operatorToken .divide 10, ⟨.number 6, 11⟩]

/-- Its two powers are a run of two. Under a bound of two it has the value that the
table gives: differences from the left, powers from the right, and the quotient
between them. -/
theorem mixedSeries_outcome :
    Parser.outcome mixedTokens [] (.whole 2) =
        .ok (2 - 3 - Number.power 4 (Number.power 5 0) / 6) ∧
      mixedSeries.value = .ok (2 - 3 - Number.power 4 (Number.power 5 0) / 6) := by
  have htable := outcome_series mixedSeries mixedTokens [] 2 rfl (by decide) (by decide) (by decide)
  have houtcome : Parser.outcome mixedTokens [] (.whole 2) =
      .ok (2 - 3 - Number.power 4 (Number.power 5 0) / 6) := rfl
  exact ⟨houtcome, htable.1.symm.trans houtcome⟩

end Grammar

end Reckon
