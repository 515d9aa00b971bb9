import Reckon.Proofs.Decimal.Exact
import Reckon.Proofs.Decimal.Spelling
import Reckon.Proofs.Evaluate.Groups
import Reckon.Proofs.Number.Greatest
/-!
# Evaluate — a template with a pole

The template that adds zero over the distance from a number to the greatest
double. It has no value at that number, and at any other point it is the
greatest double or no number (`evaluateAt_pole`): of all templates these tell
steps apart.
-/

namespace Reckon

open Number (greatest)

/-- The characters of a number that is finite and above zero. -/
def numeral (v : Float) : List Char :=
  (Number.magnitude v).exact.spelled

/-- The greatest double, and zero over the distance of the variable from a
number: `1.7976931348623157e308+0/(x-v)`. -/
def pole (v : Float) : String :=
  String.ofList (numeral greatest ++ '+' :: '0' :: '/' :: '(' :: 'x' :: '-' :: (numeral v ++ [')']))

variable {v : Float} {m : Nat} {e : Int} {hm : 0 < m}

namespace Scan

/-- The characters of a number are its token, where no digit follows. -/
theorem tokens_numeral {declared : List String} {position : Nat} {rest : List Char}
    (h : v.toModel.unpack = .finite .positive m e hm)
    (hrest : rest.head?.any Decimal.isDigit = false) :
    tokens declared 0 position (numeral v ++ rest) = (do
      let ts ← tokens declared 0 (position + (numeral v).length) rest
      return ⟨.number v, position⟩ :: ts) := by
  have hread := Number.toFloat_exact h
  have hfinite : (Number.magnitude v).exact.toFloat.isFinite = true := by
    rw [hread]
    change v.toModel.unpack.isFinite = true
    rw [h]
    rfl
  rw [numeral, tokens_spelled declared position hfinite hrest, hread]

end Scan

namespace Grammar

open Scan (tokens_cons)

/-- The distance of the variable from a number, from a position on. -/
def distanceTree (v : Float) (position : Nat) : Tree .expression :=
  .minus (.factor (.variableName variableName position))
    (.factor (.number v (position + 2 : Nat))) (position + 1 : Nat)

/-- The tree of the template, where its first number has so many characters. -/
def poleTree (v : Float) (after : Nat) : Tree .expression :=
  let distance : Tree .primary := .group ⟨"(", (after + 3 : Nat)⟩ (distanceTree v (after + 4))
    ⟨")", (after + 6 + (numeral v).length : Nat)⟩
  .plus (.factor (.number greatest 0))
    (.quotient (.number 0 (after + 1 : Nat)) distance (after + 2 : Nat)) after

/-- The digit zero is a token by itself before a slash. -/
theorem lexeme_zero (declared : List String) (position : Nat) (rest : List Char) :
    Scan.lexeme declared position '0' ('/' :: rest) = .ok (.number 0, 0) := by
  have hliteral : Scan.literal ('0' :: '/' :: rest) = ['0'] := rfl
  have hread : Decimal.readFinite? ['0'] = some 0 := rfl
  have hpoints : (('0' :: '/' :: rest).takeWhile Scan.isMantissa).count '.' = 0 := rfl
  change Scan.number position ('0' :: '/' :: rest) = _
  rw [Scan.number, hpoints]
  simp only [hliteral, hread]
  rfl

/-- The text has the tokens of the tree. -/
theorem tokenize_pole (h : v.toModel.unpack = .finite .positive m e hm) :
    tokenize [variableName] (pole v) = .ok (poleTree v (numeral greatest).length).yield := by
  have hblank (s : List Char) : (numeral greatest ++ '+' :: s).all Text.isBlank = false := by
    simp [Text.isBlank]
  rw [tokenize, pole, String.toList_ofList, hblank]
  simp only [Bool.false_eq_true, if_false]
  rw [Scan.tokens_numeral Number.unpack_greatest rfl, tokens_cons (by decide) rfl,
    tokens_cons (by decide) (lexeme_zero _ _ _), tokens_cons (by decide) rfl,
    tokens_cons (by decide) rfl,
    tokens_cons (by decide) (lexeme_variableName rfl), tokens_cons (by decide) rfl,
    Scan.tokens_numeral h rfl, tokens_cons (by decide) rfl, poleTree]
  -- the lengths only shift positions, and the numbers need not be written out
  generalize (numeral greatest).length = after
  generalize (numeral v).length = length
  generalize greatest = k
  simp [bind, Except.bind, pure, Except.pure, Scan.tokens, distanceTree, Tree.factor, Tree.quotient,
    Tree.plus, Tree.minus, Tree.yield, Mark.token, operatorToken, Operator.spelling]
  omega

variable {bound : Nat}

/-- The tree means what the operations make of the point. -/
theorem meaning_poleTree (hbound : 1 ≤ bound) (v x : Float) (after : Nat) :
    (poleTree v after).valueWithin [(variableName, x)] bound =
      if x - v == 0 then .error .divisionByZero else .ok (greatest + 0 / (x - v)) := by
  have hgate : Tree.withinBound bound (0 + 1) = .ok () := Tree.withinBound_eq_ok_iff.mpr hbound
  have hpoint : boundValue [(variableName, x)] variableName = .ok x := rfl
  rw [Tree.valueWithin, poleTree]
  simp only [Tree.meaning, Tree.factor, Tree.quotient, Tree.plus, Tree.minus, distanceTree, hgate,
    hpoint, Parser.operate, bind, Except.bind]
  cases x - v == 0 <;> rfl

end Grammar

variable {bound : Int}

/-- **The template at a point.** -/
theorem evaluateAt_pole (h : v.toModel.unpack = .finite .positive m e hm)
    (hbound : leastBound ≤ bound ∧ bound ≤ greatestBound) (x : Float) :
    evaluateAt (.whole bound) (pole v) x =
      if x - v == 0 then .error .divisionByZero else .ok (greatest + 0 / (x - v)) := by
  rw [leastBound, greatestBound] at hbound
  obtain ⟨n, rfl⟩ : ∃ n : Nat, bound = n := ⟨bound.toNat, by omega⟩
  rw [evaluateAt, Parser.evaluateWith_eq]
  simp only [List.map_cons, List.map_nil, Grammar.tokenize_pole h]
  change Parser.outcome (Grammar.poleTree v _).yield [(variableName, x)] (.whole n) = _
  rw [Grammar.Tree.outcome_yield _ (by omega) (by omega)]
  exact Grammar.meaning_poleTree (by omega) v x _

end Reckon
