import Reckon.Calculus
import Reckon.Proofs.Evaluate.Negated
import Reckon.Proofs.Number.Sign
/-!
# Calculus — a maximum is a minimum of the opposite

The search for a maximum of a template makes the same steps as the search for a minimum of the
template under a minus sign: what the two make small are the same doubles, signed zeros and NaN
included (`rank_opposite`). So it ends at the same point with the opposite value, or fails with the
same error (`findExtremum_negated_iff`).
-/

namespace Reckon

namespace Calculus

open Grammar (Tree)

variable {ε : Type} {S : Settings.Standing} {template : String} {t : Tree .expression}
variable {q : Quantity}

/-- A function with the opposite values. -/
def opposite (f : Float → Except ε Float) (x : Float) : Except ε Float :=
  (-·) <$> f x

/-- The end of a search with the opposite value. -/
def oppositeEnd (p : Float × Float) : Float × Float :=
  (p.1, -p.2)

theorem oppositeEnd_injective : Function.Injective oppositeEnd := by
  rintro ⟨x, v⟩ ⟨y, w⟩ h
  obtain ⟨rfl, hvalue⟩ := Prod.mk.inj h
  rw [← Number.neg_of_neg v, ← Number.neg_of_neg w]
  exact congrArg (fun u => (x, -u)) hvalue

/-- **What the two searches make small are the same doubles.** -/
theorem rank_opposite (f : Float → Except ε Float) :
    Extremum.minimum.rank (opposite f) = Extremum.maximum.rank f := by
  funext x
  rw [Extremum.rank, Extremum.rank, opposite]
  cases f x with
  | error e => rfl
  | ok v => exact congrArg Except.ok ((Number.unit_mul (-v)).trans (Number.neg_unit_mul v).symm)

/-- So they make the same steps, and end at the same point. -/
theorem goldenSection_opposite (ratio : Float) (f : Float → Except ε Float)
    (steps : Except ε Nat) (a b : Float) :
    goldenSection ratio (Extremum.minimum.rank (opposite f)) (opposite f) steps a b =
      oppositeEnd <$> goldenSection ratio (Extremum.maximum.rank f) f steps a b := by
  rw [rank_opposite]
  simp only [goldenSection, opposite, map_bind, bind_map_left, map_pure]
  rfl

/-- The samples of a template under a minus sign are the opposite ones. -/
theorem sampler_negated (hbound : S .maxNestingDepth = .quantity q)
    (htokens : tokenize [variableName] template = .ok t.yield)
    (h : t.negated.nesting ≤ q.floor.toNat) :
    sampler S (negated template) = opposite (sampler S template) := by
  funext x
  rw [opposite, sampler, sampler, hbound, evaluateAt_negated htokens h]
  cases evaluateAt (.quantity q) template x <;> rfl

theorem findExtremum_negated (hbound : S .maxNestingDepth = .quantity q)
    (htokens : tokenize [variableName] template = .ok t.yield)
    (h : t.negated.nesting ≤ q.floor.toNat) (lower upper : Float) (tolerance : Value) :
    findExtremum S (negated template) lower upper "min" tolerance =
      oppositeEnd <$> findExtremum S template lower upper "max" tolerance := by
  have hmin : Extremum.ofWord "min" = .ok .minimum := rfl
  have hmax : Extremum.ofWord "max" = .ok .maximum := rfl
  simp only [findExtremum, hmin, hmax, sampler_negated hbound htokens h]
  cases positive .toleranceNotPositive tolerance (S .extremumTolerance) with
  | error e => rfl
  | ok tol => exact goldenSection_opposite goldenRatio _ _ _ _

/-- **To maximise a template is to minimise it under a minus sign.** Where the tokens of a template
derive from the grammar and the bound allows the nesting of the template under a minus sign, in
parentheses, the one search ends at a point with a value exactly if the other ends there with the
opposite value, and the one fails exactly if the other fails with the same error. -/
theorem findExtremum_negated_iff (S : Settings.Standing) (template : String) (t : Tree .expression)
    (q : Quantity) (lower upper : Float) (tolerance : Value)
    (hbound : S .maxNestingDepth = .quantity q)
    (htokens : tokenize [variableName] template = .ok t.yield)
    (hnesting : t.negated.nesting ≤ q.floor.toNat) :
    (∀ x v, findExtremum S template lower upper "max" tolerance = .ok (x, v) ↔
        findExtremum S (negated template) lower upper "min" tolerance = .ok (x, -v)) ∧
      ∀ e, findExtremum S template lower upper "max" tolerance = .error e ↔
        findExtremum S (negated template) lower upper "min" tolerance = .error e := by
  rw [findExtremum_negated hbound htokens hnesting]
  cases findExtremum S template lower upper "max" tolerance with
  | error e' => exact ⟨fun x v => by constructor <;> rintro ⟨⟩, fun e => Iff.rfl⟩
  | ok p =>
    refine ⟨fun x v => ⟨?_, fun h => ?_⟩, fun e => by constructor <;> rintro ⟨⟩⟩
    · rintro ⟨⟩
      rfl
    · exact congrArg Except.ok (oppositeEnd_injective (Except.ok.inj h))

/-- The tree of the variable. -/
def identity : Tree .expression :=
  .ofProduct (.factor (.variableName variableName 0))

/-- In the middle of an interval that is narrower than the tolerance the value may be a zero, and
the opposite value is the zero with the other sign. Under the tolerance of the settings the
interval is narrowed, and both searches come to the same. -/
theorem identity_extremum :
    identity.negated.nesting ≤ 100 ∧
      findExtremum Settings.default.standing "x" (-1) 1 "max" (.whole 10) = .ok (0, 0) ∧
      findExtremum Settings.default.standing "-(x)" (-1) 1 "min" (.whole 10) = .ok (0, -0) ∧
      ∀ x v, findExtremum Settings.default.standing "x" (-1) 1 "max" .nothing = .ok (x, v) ↔
        findExtremum Settings.default.standing "-(x)" (-1) 1 "min" .nothing = .ok (x, -v) := by
  have hnesting : identity.negated.nesting ≤ 100 := by decide
  have negated (tolerance : Value) := findExtremum_negated_iff Settings.default.standing "x"
    identity (.whole 100) (-1) 1 tolerance rfl rfl hnesting
  have hmax : findExtremum Settings.default.standing "x" (-1) 1 "max" (.whole 10) =
      .ok (0, 0) := by decide +kernel
  exact ⟨hnesting, hmax, ((negated (.whole 10)).1 0 0).mp hmax, (negated .nothing).1⟩

end Calculus

end Reckon
