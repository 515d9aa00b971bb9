import Mathlib.Data.List.TakeWhile
import Reckon.Parser.Rules
import Reckon.Proofs.Except
/-!
# Grammar — a series by the table of precedence

A series of numbers with operators between them can be evaluated by the table
of precedence and associativity alone (`Series.value`): it is split at an
operator of the least precedence, both sides are evaluated, and the operator is
applied. `splits_splitIndex` says what binds how tightly around a split, and
`longestRun` how many powers stand in a row.
-/

namespace Reckon

namespace Operator

/-- The least precedence among operators. -/
def leastPrecedence (ops : List Operator) : Nat :=
  (ops.map precedence).min?.getD 0

/-- Whether an operator is one of the least precedence. -/
def isLeast (ops : List Operator) (op : Operator) : Bool :=
  op.precedence = leastPrecedence ops

/-- The leftmost operator of the least precedence. -/
def leftmostLeast (ops : List Operator) : Nat :=
  ops.findIdx (isLeast ops)

/-- The rightmost operator of the least precedence. -/
def rightmostLeast (ops : List Operator) : Nat :=
  ops.length - 1 - ops.reverse.findIdx (isLeast ops)

/-- **Where a series is split:** at an operator of the least precedence, the
leftmost one if it groups to the right, and the rightmost one otherwise. -/
def splitIndex (ops : List Operator) : Nat :=
  if ops[leftmostLeast ops]?.any rightAssociative then leftmostLeast ops else rightmostLeast ops

/-- The greatest number of operators in a row that group to the right. -/
def longestRun : List Operator → Nat
  | [] => 0
  | op :: rest => max ((op :: rest).takeWhile rightAssociative).length (longestRun rest)

/-- **What a split divides.** Both sides bind at least as tightly as the
operator; strictly so the left one of an operator that groups to the right, and
the right one of any other. -/
structure Splits (before : List Operator) (op : Operator) (after : List Operator) : Prop where
  least_before : ∀ other ∈ before, op.precedence ≤ other.precedence
  least_after : ∀ other ∈ after, op.precedence ≤ other.precedence
  leftmost : op.rightAssociative = true → ∀ other ∈ before, op.precedence < other.precedence
  rightmost : op.rightAssociative = false → ∀ other ∈ after, op.precedence < other.precedence

variable {ops : List Operator} {op : Operator}

/-- Precedence decides how an operator groups. -/
theorem rightAssociative_iff : op.rightAssociative = true ↔ op.precedence = 4 := by
  cases op <;> decide

theorem precedence_bounds (op : Operator) : 2 ≤ op.precedence ∧ op.precedence ≤ 4 := by
  cases op <;> decide

/-- The least precedence is that of an operator, and none is below it. -/
theorem leastPrecedence_spec (h : ops ≠ []) :
    (∃ op ∈ ops, isLeast ops op = true) ∧ ∀ op ∈ ops, leastPrecedence ops ≤ op.precedence := by
  obtain ⟨least, hleast⟩ : ∃ least, (ops.map precedence).min? = some least := by
    rw [← Option.isSome_iff_exists]
    exact List.isSome_min?_of_ne_nil (by simpa using h)
  have heq : leastPrecedence ops = least := by rw [leastPrecedence, hleast, Option.getD_some]
  obtain ⟨hmem, hle⟩ := List.min?_eq_some_iff.mp hleast
  obtain ⟨op, hop, hprecedence⟩ := List.mem_map.mp hmem
  rw [heq]
  exact ⟨⟨op, hop, by simp [isLeast, heq, hprecedence]⟩,
    fun op hop => hle _ (List.mem_map_of_mem hop)⟩

/-- Up to the leftmost operator of the least precedence there is none of it. -/
theorem leftmostLeast_spec (h : ops ≠ []) : ∃ hlt : leftmostLeast ops < ops.length,
    isLeast ops ops[leftmostLeast ops] = true ∧
      ∀ i (hi : i < leftmostLeast ops), isLeast ops ops[i] = false := by
  have hlt : leftmostLeast ops < ops.length :=
    List.findIdx_lt_length_of_exists (leastPrecedence_spec h).1
  exact ⟨hlt, List.findIdx_getElem, fun i hi => List.not_of_lt_findIdx hi⟩

/-- Past the rightmost operator of the least precedence there is none of it. -/
theorem rightmostLeast_spec (h : ops ≠ []) : ∃ hlt : rightmostLeast ops < ops.length,
    isLeast ops ops[rightmostLeast ops] = true ∧
      ∀ i (hi : i < ops.length), rightmostLeast ops < i → isLeast ops ops[i] = false := by
  obtain ⟨op, hop, hleast⟩ := (leastPrecedence_spec h).1
  -- from the right it is the first, at this distance from the end
  have hlt : ops.reverse.findIdx (isLeast ops) < ops.reverse.length :=
    List.findIdx_lt_length_of_exists ⟨op, List.mem_reverse.mpr hop, hleast⟩
  have hfound : isLeast ops ops.reverse[ops.reverse.findIdx (isLeast ops)] = true :=
    List.findIdx_getElem
  rw [List.length_reverse] at hlt
  refine ⟨by unfold rightmostLeast; omega, ?_, fun i hi hafter => ?_⟩
  · rwa [List.getElem_reverse] at hfound
  · have hbefore : ops.length - 1 - i < ops.reverse.findIdx (isLeast ops) := by
      unfold rightmostLeast at hafter
      omega
    have hnone := List.not_of_lt_findIdx hbefore
    rw [List.getElem_reverse] at hnone
    have hindex : ops.length - 1 - (ops.length - 1 - i) = i := by omega
    simpa only [hindex] using hnone

/-- A series is split inside itself. -/
theorem splitIndex_lt (h : ops ≠ []) : splitIndex ops < ops.length := by
  obtain ⟨hleft, -⟩ := leftmostLeast_spec h
  obtain ⟨hright, -⟩ := rightmostLeast_spec h
  unfold splitIndex
  split
  · exact hleft
  · exact hright

theorem precedence_of_isLeast (h : isLeast ops op = true) :
    op.precedence = leastPrecedence ops :=
  of_decide_eq_true h

/-- An operator of a series is above the least precedence or of it. -/
theorem leastPrecedence_lt {i : Nat} (hi : i < ops.length) (h : isLeast ops ops[i] = false) :
    leastPrecedence ops < ops[i].precedence := by
  have hle := (leastPrecedence_spec (List.ne_nil_of_length_pos (Nat.zero_lt_of_lt hi))).2 _
    (List.getElem_mem hi)
  have hdiffers : ops[i].precedence ≠ leastPrecedence ops := of_decide_eq_false h
  omega

/-- The leftmost operator of the least precedence splits a series where it groups to the
right. -/
theorem splits_leftmost (hlt : leftmostLeast ops < ops.length)
    (hr : ops[leftmostLeast ops].rightAssociative = true) :
    Splits (ops.take (leftmostLeast ops)) ops[leftmostLeast ops]
      (ops.drop (leftmostLeast ops + 1)) := by
  have hne : ops ≠ [] := List.ne_nil_of_length_pos (Nat.zero_lt_of_lt hlt)
  have hle := (leastPrecedence_spec hne).2
  obtain ⟨_, hleftmost, hbefore⟩ := leftmostLeast_spec hne
  rw [← precedence_of_isLeast hleftmost] at hle
  refine ⟨fun other ho => hle _ (List.mem_of_mem_take ho),
    fun other ho => hle _ (List.mem_of_mem_drop ho), fun _ other ho => ?_, fun hn => ?_⟩
  · obtain ⟨i, hi, rfl⟩ := List.mem_take_iff_getElem.mp ho
    rw [precedence_of_isLeast hleftmost]
    exact leastPrecedence_lt (by omega) (hbefore i (by omega))
  · rw [hr] at hn
    cases hn

/-- And the rightmost one where it does not. -/
theorem splits_rightmost (hlt : rightmostLeast ops < ops.length)
    (hn : ops[rightmostLeast ops].rightAssociative ≠ true) :
    Splits (ops.take (rightmostLeast ops)) ops[rightmostLeast ops]
      (ops.drop (rightmostLeast ops + 1)) := by
  have hne : ops ≠ [] := List.ne_nil_of_length_pos (Nat.zero_lt_of_lt hlt)
  have hle := (leastPrecedence_spec hne).2
  obtain ⟨_, hrightmost, hafter⟩ := rightmostLeast_spec hne
  rw [← precedence_of_isLeast hrightmost] at hle
  refine ⟨fun other ho => hle _ (List.mem_of_mem_take ho),
    fun other ho => hle _ (List.mem_of_mem_drop ho), fun hr => absurd hr hn, fun _ other ho => ?_⟩
  obtain ⟨i, hi, rfl⟩ := List.mem_drop_iff_getElem.mp ho
  rw [precedence_of_isLeast hrightmost]
  exact leastPrecedence_lt (by omega) (hafter _ (by omega) (by omega))

/-- **The split is at an operator of the least precedence,** with none of it on
the side where it would group otherwise. -/
theorem splits_splitIndex (h : ops[splitIndex ops]? = some op) :
    Splits (ops.take (splitIndex ops)) op (ops.drop (splitIndex ops + 1)) := by
  have hne : ops ≠ [] := by
    rintro rfl
    cases h
  obtain ⟨hleft, hleftmost, -⟩ := leftmostLeast_spec hne
  obtain ⟨hright, hrightmost, -⟩ := rightmostLeast_spec hne
  have hgroups : ops[leftmostLeast ops]?.any rightAssociative =
      ops[leftmostLeast ops].rightAssociative := by
    rw [List.getElem?_eq_getElem hleft, Option.any_some]
  by_cases hr : ops[leftmostLeast ops].rightAssociative = true
  · have hindex : splitIndex ops = leftmostLeast ops := if_pos (hgroups.trans hr)
    rw [hindex] at h ⊢
    obtain ⟨-, rfl⟩ := List.getElem?_eq_some_iff.mp h
    exact splits_leftmost hleft hr
  · have hindex : splitIndex ops = rightmostLeast ops := if_neg (fun ha => hr (hgroups ▸ ha))
    rw [hindex] at h ⊢
    obtain ⟨-, rfl⟩ := List.getElem?_eq_some_iff.mp h
    -- both are of the least precedence, so they group alike
    have hn : ops[rightmostLeast ops].rightAssociative ≠ true := by
      rw [ne_eq, rightAssociative_iff, precedence_of_isLeast hrightmost,
        ← precedence_of_isLeast hleftmost, ← rightAssociative_iff]
      exact hr
    exact splits_rightmost hright hn

/-! ## The longest run -/

theorem longestRun_le_append_left (ops others : List Operator) :
    longestRun ops ≤ longestRun (ops ++ others) := by
  induction ops with
  | nil => exact Nat.zero_le _
  | cons op rest ih =>
    -- the run at the front goes on into the others, or has ended before them
    have hrun : ((op :: rest).takeWhile rightAssociative).length ≤
        ((op :: rest ++ others).takeWhile rightAssociative).length := by
      rw [List.takeWhile_append]
      split
      · next hall => rw [hall, List.length_append]; exact Nat.le_add_right _ _
      · exact Nat.le_refl _
    simp only [List.cons_append, longestRun] at hrun ⊢
    omega

theorem longestRun_le_append_right (ops others : List Operator) :
    longestRun others ≤ longestRun (ops ++ others) := by
  induction ops with
  | nil => exact Nat.le_refl _
  | cons op rest ih =>
    simp only [List.cons_append, longestRun]
    omega

theorem longestRun_le_length (ops : List Operator) : longestRun ops ≤ ops.length := by
  induction ops with
  | nil => exact Nat.le_refl _
  | cons op rest ih =>
    have hrun := (List.takeWhile_prefix (l := op :: rest) rightAssociative).length_le
    rw [List.length_cons] at hrun ⊢
    rw [longestRun]
    omega

/-- Operators that all group to the right are one run. -/
theorem length_le_longestRun (h : ∀ op ∈ ops, op.rightAssociative = true) :
    ops.length ≤ longestRun ops := by
  cases ops with
  | nil => exact Nat.le_refl _
  | cons op rest =>
    rw [longestRun, List.takeWhile_eq_self_iff.mpr h]
    exact Nat.le_max_left _ _

end Operator

namespace Grammar

open Operator

/-- A number, and further numbers with an operator before each. -/
structure Series where
  first : Float
  rest : List (Operator × Float)

namespace Series

/-- What the tokens of a series say. -/
def lexemes (s : Series) : List Lexeme :=
  .number s.first ::
    s.rest.flatMap fun (op, v) => [.symbol .operator op.spelling, .number v]

/-- The operators of a series. -/
def operators (s : Series) : List Operator :=
  s.rest.map (·.1)

/-- **The value of a series by the table:** the value of the part to the left of
the split, then that of the part to the right, then the operation. -/
def value (s : Series) : Except Error Float :=
  match h : s.rest[splitIndex s.operators]? with
  | none => .ok s.first
  | some (op, v) => do
    let left ← value ⟨s.first, s.rest.take (splitIndex s.operators)⟩
    let right ← value ⟨v, s.rest.drop (splitIndex s.operators + 1)⟩
    Parser.operate op left right
termination_by s.rest.length
decreasing_by
  all_goals
    have hlt := (List.getElem?_eq_some_iff.mp h).1
    simp only [List.length_take, List.length_drop]
    omega

theorem value_nil (v : Float) : value ⟨v, []⟩ = .ok v := by
  rw [value]
  rfl

/-- **A series with an operator is split,** and its value is that of the operator
on the values of both sides. -/
theorem exists_split (s : Series) (h : s.rest ≠ []) : ∃ before op v after,
    s.rest = before ++ (op, v) :: after ∧ Splits (before.map (·.1)) op (after.map (·.1)) ∧
      s.value = (do
        let left ← value ⟨s.first, before⟩
        let right ← value ⟨v, after⟩
        Parser.operate op left right) := by
  have hlt : splitIndex s.operators < s.rest.length := by
    have hne : s.operators ≠ [] := by simpa [operators] using h
    simpa [operators] using splitIndex_lt hne
  obtain ⟨⟨op, v⟩, hstep⟩ : ∃ step, s.rest[splitIndex s.operators]? = some step :=
    ⟨_, List.getElem?_eq_getElem hlt⟩
  refine ⟨s.rest.take (splitIndex s.operators), op, v,
    s.rest.drop (splitIndex s.operators + 1), ?_, ?_, ?_⟩
  · have hget := (List.getElem?_eq_some_iff.mp hstep).2
    rw [← hget, ← List.drop_eq_getElem_cons hlt, List.take_append_drop]
  · have hop : s.operators[splitIndex s.operators]? = some op := by
      rw [operators, List.getElem?_map, ← operators, hstep]
      rfl
    have hsplits := splits_splitIndex hop
    rwa [List.map_take, List.map_drop]
  · rw [value]
    split
    · next hnone => rw [hstep] at hnone; cases hnone
    · next hsome => rw [hstep] at hsome; cases hsome; rfl

/-- An operation stops for a quotient by zero only. -/
theorem eq_divisionByZero_of_operate {op : Operator} {v w : Float} {e : Error}
    (h : Parser.operate op v w = .error e) : e = .divisionByZero := by
  cases op with
  | divide =>
    rw [Parser.operate] at h
    split at h
    · cases h
      rfl
    · cases h
  | plus | minus | times | modulo | caret | stars => cases h

/-- **A series stops for a quotient by zero only.** -/
theorem eq_divisionByZero (s : Series) {e : Error} (h : s.value = .error e) :
    e = .divisionByZero := by
  induction hn : s.rest.length using Nat.strongRecOn generalizing s with
  | _ n ih =>
    obtain ⟨first, rest⟩ := s
    by_cases hrest : rest = []
    · subst hrest
      rw [value_nil] at h
      cases h
    · obtain ⟨before, op, v, after, hcut, -, hvalue⟩ := exists_split ⟨first, rest⟩ hrest
      simp only at hcut hn
      rw [hcut, List.length_append, List.length_cons] at hn
      rw [hvalue] at h
      -- it stops in the left part, in the right part or at the operation
      rcases Except.bind_eq_error_iff.mp h with hleft | ⟨left, -, h⟩
      · exact ih before.length (by omega) ⟨first, before⟩ hleft rfl
      · rcases Except.bind_eq_error_iff.mp h with hright | ⟨right, -, h⟩
        · exact ih after.length (by omega) ⟨v, after⟩ hright rfl
        · exact eq_divisionByZero_of_operate h

end Series

end Grammar

end Reckon
