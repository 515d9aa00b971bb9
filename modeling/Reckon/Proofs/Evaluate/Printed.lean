import Reckon.Proofs.Evaluate.Substitution
import Reckon.Proofs.Number.Shortest
/-!
# Evaluate — results evaluated again

A literal is an expression for the number that it reads as, and so is one after
a minus sign (`evaluate_literal`, `evaluate_negated_literal`). The text of a
result is one or the other, so it comes to the result again
(`evaluate_resultText`), though a negative zero comes back as zero.
-/

namespace Reckon

open Grammar

variable {bound : Nat} {s : List Char} {d : Decimal}

/-- The tree of a number, and of one after a minus sign. -/
def literalTree (v : Float) : Tree .expression :=
  .ofProduct (.factor (.number v 0))

def negatedLiteralTree (v : Float) : Tree .expression :=
  .ofProduct (.multiplicative (.negation 0 (.unsigned (.single (.number v 1)))) .lastProduct)

section Literal

variable (hleast : 1 ≤ bound) (hgreatest : bound ≤ 114) (h : Decimal.ofLiteral? s = some d)
  (hd : d.toFloat.isFinite = true)

include hleast hgreatest h hd

/-- **A literal comes to the number that it reads as.** -/
theorem evaluate_literal : evaluate (.whole bound) (String.ofList s) = .ok d.toFloat := by
  have hspells : Scan.Spells [] s ((literalTree d.toFloat).yield.map (·.lexeme)) :=
    Scan.spells_literal h [] hd
  rw [evaluate_of_spells hleast hgreatest hspells]
  rfl

/-- After a minus sign it comes to the opposite. -/
theorem evaluate_negated_literal :
    evaluate (.whole bound) (String.ofList ('-' :: s)) = .ok (-d.toFloat) := by
  have hspells : Scan.Spells [] ('-' :: s) ((negatedLiteralTree d.toFloat).yield.map (·.lexeme)) :=
    Scan.Spells.cons (by decide) (fun _ => rfl) (Scan.spells_literal h [] hd)
  rw [evaluate_of_spells hleast hgreatest hspells]
  -- the number after the sign is nested once
  have hgate : Tree.withinBound bound 1 = .ok () := if_pos hleast
  simp only [negatedLiteralTree, Tree.valueWithin, Tree.ofProduct, Tree.meaning, Nat.zero_add,
    hgate]
  rfl

end Literal

/-- **The text of a result comes to the result.** Under every nesting bound a finite
double is written as an expression for an equal double, and for the same one unless it
is the negative zero. -/
theorem evaluate_resultText (v : Float) (bound : Nat) (hv : v.isFinite = true)
    (hleast : 1 ≤ bound) (hgreatest : bound ≤ 114) :
    ∃ w, evaluate (.whole bound) (Number.resultText v) = .ok w ∧ (w == v) = true ∧
      (v.toBits ≠ (-0.0 : Float).toBits → w.toBits = v.toBits) := by
  obtain ⟨digits, d, htext, hread, hvalue⟩ := Number.exists_resultText_literal hv
  have hd : d.toFloat.isFinite = true := by
    rw [hvalue]
    exact Number.isFinite_abs hv
  have hbits : v.toBits ≠ (-0.0 : Float).toBits → v ≠ -0.0 := fun h heq => h (congrArg _ heq)
  rw [htext]
  by_cases hlt : v < 0
  · rw [if_pos hlt, evaluate_negated_literal hleast hgreatest hread hd, hvalue,
      Number.neg_abs hv hlt]
    exact ⟨v, rfl, Number.beq_self hv, fun _ => rfl⟩
  · rw [if_neg hlt, evaluate_literal hleast hgreatest hread hd, hvalue]
    obtain ⟨hequal, hsame⟩ := Number.abs_beq hv hlt
    exact ⟨v.abs, rfl, hequal, fun h => congrArg _ (hsame (hbits h))⟩

/-- So a number with a sign and an exponent is written as it is read, under the least
bound. -/
theorem evaluate_resultText_small :
    Number.resultText (-1e-5) = "-1e-05" ∧ evaluate (.whole 1) "-1e-05" = .ok (-1e-5) := by
  have htext : Number.resultText (-1e-5) = "-1e-05" := by decide +kernel
  obtain ⟨w, hvalue, -, hbits⟩ :=
    evaluate_resultText (-1e-5) 1 (by decide +kernel) (by decide) (by decide)
  have hsame : w = -1e-5 := Float.toBits_inj.mp (hbits (by decide +kernel))
  rw [htext, hsame] at hvalue
  exact ⟨htext, hvalue⟩

end Reckon
