import Reckon.Proofs.Grammar.Completeness
import Reckon.Proofs.Grammar.Soundness
import Reckon.Proofs.Grammar.Unambiguous
import Reckon.Proofs.Parser.Whole
/-!
# Grammar — the parser is the grammar

A token sequence has a value exactly if it is derived by a tree that is not
nested beyond the bound and has that value, and no sequence has two trees
(`outcome_eq_ok_iff_derived`). A tree that fails under the bound fails in the
parser with the same error: the first in the order of the source
(`outcome_eq_error_of_derived`). Both follow from one equation, that the
parser does on the tokens of a tree what the tree means under the bound.
-/

namespace Reckon

namespace Grammar

variable {ts : List Token} {bindings : Bindings} {bound : Nat}

/-! ## Trees of short expressions -/

namespace Tree

/-- A primary expression as a product. -/
def factor (base : Tree .primary) : Tree .multiplicative :=
  .multiplicative (.unsigned (.single base)) .lastProduct

/-- A product as an expression. -/
def ofProduct (product : Tree .multiplicative) : Tree .expression :=
  .expression (.additive product .lastSum)

/-- A primary expression over another. -/
def quotient (left right : Tree .primary) (position : Int) : Tree .multiplicative :=
  .multiplicative (.unsigned (.single left))
    (.product .divide rfl position (.unsigned (.single right)) .lastProduct)

/-- A primary expression to the power of another. -/
def raised (base exponent : Tree .primary) (position : Int) : Tree .exponent :=
  .power base .caret rfl position (.unsigned (.single exponent))

/-- A product and another. -/
def plus (left right : Tree .multiplicative) (position : Int) : Tree .expression :=
  .expression (.additive left (.sum .plus rfl position right .lastSum))

/-- A product without another. -/
def minus (left right : Tree .multiplicative) (position : Int) : Tree .expression :=
  .expression (.additive left (.sum .minus rfl position right .lastSum))

end Tree

/-! ## The parser and the grammar -/

/-- A parser of what a tree derives comes to what the tree means under the bound. -/
theorem Tree.parse_yield (t : Tree .expression) (bindings : Bindings) (bound : Nat) :
    (Parser.fresh t.yield bindings bound).parse.1 = t.valueWithin bindings bound := by
  let p := Parser.fresh t.yield bindings bound
  have hbalanced : Parser.balanced (t.yield ++ []) = true := balancedFrom_yield t 0 []
  have hrest : p.input.rest p.cursor = t.yield ++ [] := by simp [p, Parser.fresh, Parser.Input.rest]
  have hreads := t.reads (rfl : p.input.bound = .whole bound)
    (Parser.callLimit p.input.levels) hrest Part.ends_nil
  rw [List.append_nil] at hbalanced
  exact Parser.parse_of_gives hbalanced hreads (Parser.Input.rest_forward_length hrest)

/-- So do the tokens where the bound is accepted. -/
theorem Tree.outcome_yield (t : Tree .expression) (hleast : 1 ≤ bound) (hgreatest : bound ≤ 114) :
    Parser.outcome t.yield bindings (.whole bound) = t.valueWithin bindings bound :=
  (Parser.outcome_eq_parse hleast hgreatest).trans (t.parse_yield bindings bound)

/-- What has a value is derived by a tree that has it under the bound. -/
theorem exists_tree_of_outcome {v : Float} (hleast : 1 ≤ bound) (hgreatest : bound ≤ 114)
    (h : Parser.outcome ts bindings (.whole bound) = .ok v) :
    ∃ t : Tree .expression, t.yield = ts ∧ t.valueWithin bindings bound = .ok v := by
  rw [Parser.outcome_eq_parse hleast hgreatest] at h
  obtain ⟨c, he, hend⟩ := Parser.parse_eq_ok h
  obtain ⟨t, hr, -, hm⟩ := (Parser.rulesDerive rfl _).expression he
  rw [hend, List.append_nil] at hr
  exact ⟨t, hr.symm, hm⟩

/-- **The parser accepts the grammar and computes its values.** A token
sequence has a value under a nesting bound exactly if a tree derives it that
is not nested beyond the bound and has this value; and there is no other
tree. -/
theorem outcome_eq_ok_iff_derived (ts : List Token) (bindings : Bindings) (bound : Nat)
    (hleast : 1 ≤ bound) (hgreatest : bound ≤ 114) :
    (∀ v, Parser.outcome ts bindings (.whole bound) = .ok v ↔
      ∃ t : Tree .expression, t.yield = ts ∧ t.nesting ≤ bound ∧ t.value bindings = .ok v) ∧
    ∀ t t' : Tree .expression, t.yield = ts → t'.yield = ts → t = t' := by
  refine ⟨fun v => ⟨fun h => ?_, ?_⟩, fun t t' ht ht' => yield_injective (ht.trans ht'.symm)⟩
  · obtain ⟨t, ht, hv⟩ := exists_tree_of_outcome hleast hgreatest h
    exact ⟨t, ht, Tree.valueWithin_eq_ok_iff.mp hv⟩
  · rintro ⟨t, rfl, hv⟩
    rw [t.outcome_yield hleast hgreatest]
    exact Tree.valueWithin_eq_ok_iff.mpr hv

/-- A number in two pairs of parentheses with a sign, and a power of a call:
`-((7))+max(2,6/3)^2`. -/
def groupsAndPower : Tree .expression :=
  let grouped : Tree .primary := .group ⟨"(", 2⟩ (.ofProduct (.factor (.number 7 3))) ⟨")", 4⟩
  let twice : Tree .primary := .group ⟨"(", 1⟩ (.ofProduct (.factor grouped)) ⟨")", 5⟩
  let opposite : Tree .multiplicative :=
    .multiplicative (.negation 0 (.unsigned (.single twice))) .lastProduct
  let greater : Tree .primary :=
    .call "max" 7 (.arguments ⟨"(", 10⟩ (.ofProduct (.factor (.number 2 11)))
      (.item ⟨",", 12⟩ (.ofProduct (.quotient (.number 6 13) (.number 3 15) 14)) .lastItem)
      ⟨")", 16⟩)
  let squared : Tree .exponent := .raised greater (.number 2 18) 17
  .plus opposite (.multiplicative (.unsigned squared) .lastProduct) 6

/-- Its sign and its parentheses are three nested parts, so it has its value
under a bound of three and none under a bound of two. -/
theorem groupsAndPower_outcome :
    Parser.outcome groupsAndPower.yield [] (.whole 3) = .ok (-7 + Number.power 2 2) ∧
      ∀ v, Parser.outcome groupsAndPower.yield [] (.whole 2) ≠ .ok v := by
  refine ⟨?_, fun v h => ?_⟩
  · refine ((outcome_eq_ok_iff_derived _ [] 3 (by decide) (by decide)).1 _).mpr ?_
    exact ⟨groupsAndPower, rfl, by decide, rfl⟩
  · have derived := outcome_eq_ok_iff_derived groupsAndPower.yield [] 2 (by decide) (by decide)
    obtain ⟨t, ht, hn, -⟩ := (derived.1 v).mp h
    obtain rfl := derived.2 t groupsAndPower ht rfl
    exact absurd hn (by decide)

/-- **The first error in the order of the source is the one reported.** Where
a tree fails under a nesting bound, its tokens fail in the parser alike. -/
theorem outcome_eq_error_of_derived (t : Tree .expression) (bindings : Bindings) (bound : Nat)
    (hleast : 1 ≤ bound) (hgreatest : bound ≤ 114) (e : Error)
    (h : t.valueWithin bindings bound = .error e) :
    Parser.outcome t.yield bindings (.whole bound) = .error e := by
  rw [t.outcome_yield hleast hgreatest, h]

/-- A quotient by zero, `1/0`. -/
def zeroQuotient : Tree .multiplicative :=
  .quotient (.number 1 0) (.number 0 2) 1

/-- A number in two pairs of parentheses, `((1))`. -/
def twiceGrouped : Tree .multiplicative :=
  let grouped : Tree .primary := .group ⟨"(", 1⟩ (.ofProduct (.factor (.number 1 2))) ⟨")", 3⟩
  .factor (.group ⟨"(", 0⟩ (.ofProduct (.factor grouped)) ⟨")", 4⟩)

/-- The sum `1/0 + ((1))`. -/
def quotientFirst : Tree .expression :=
  .plus zeroQuotient twiceGrouped 3

/-- The sum `((1)) + 1/0`. -/
def groupsFirst : Tree .expression :=
  .plus twiceGrouped zeroQuotient 5

/-- Under a bound of one, the sum fails for what comes first in it. -/
theorem sums_first_error :
    Parser.outcome quotientFirst.yield [] (.whole 1) = .error .divisionByZero ∧
      Parser.outcome groupsFirst.yield [] (.whole 1) = .error (.nestingExceeded (.whole 1)) :=
  ⟨outcome_eq_error_of_derived quotientFirst [] 1 (by decide) (by decide) _ rfl,
    outcome_eq_error_of_derived groupsFirst [] 1 (by decide) (by decide) _ rfl⟩

end Grammar

end Reckon
