import Reckon.Proofs.Parser.Calls
/-!
# Parser — loops and the tokens that are left

The loops of the rules take as many rounds as there are tokens left, and no more. That is no limit:
a round goes on past a token at least, so a loop with enough rounds takes the same ones however
many more it may take (`CountedLoop.eq_of_le`). So it does what a loop without a count does, which
goes on until a round ends it (`CountedLoop.inStep`), and there is such a loop
(`CountedLoop.round_all`).
-/

namespace Reckon

namespace Parser

variable {α β : Type} {left right : Stop → Prop} {input : Input} {c : Cursor}

/-! ## Loops -/

/-- **Two rounds are in step** if they are wherever what they go on with is, after a token at
least. -/
def RoundsInStep (left right : Stop → Prop) (input : Input)
    (round₁ round₂ : (α → Action β) → α → Action β) : Prop :=
  ∀ again₁ again₂ v c,
    (∀ w c', (input.rest c').length < (input.rest c).length →
      Lockstep left right Eq (again₁ w c') (again₂ w c')) →
    Lockstep left right Eq (round₁ again₁ v c) (round₂ again₂ v c)

/-- **A loop of so many rounds at most,** which needs none where no token is left. -/
structure CountedLoop (input : Input) (round : (α → Action β) → α → Action β)
    (loop : Nat → α → Action β) : Prop where
  zero (again : α → Action β) {v : α} {c : Cursor} :
    input.rest c = [] → loop 0 v c = round again v c
  succ (count : Nat) : loop (count + 1) = round (loop count)

theorem allRounds_apply (loop : Nat → α → Action β) (v : α) :
    allRounds input loop v c = loop (input.rest c).length v c := by
  rw [allRounds, bind_apply, remaining_apply]

namespace CountedLoop

variable {round round₁ round₂ : (α → Action β) → α → Action β} {loop : Nat → α → Action β}

theorem inStep_of_le {again : α → Action β} (hloop : CountedLoop input round₁ loop)
    (hstep : RoundsInStep left right input round₁ round₂) (hagain : round₂ again = again)
    (count : Nat) : ∀ v c, (input.rest c).length ≤ count →
      Lockstep left right Eq (loop count v c) (again v c) := by
  -- on the count: what a round goes on with has fewer tokens left
  induction count with
  | zero =>
    intro v c hc
    rw [hloop.zero again (List.length_eq_zero_iff.mp (Nat.le_zero.mp hc)), ← hagain]
    exact hstep _ _ v c fun w c' hlt => absurd hlt (by omega)
  | succ count ih =>
    intro v c hc
    rw [hloop.succ, ← hagain]
    exact hstep _ _ v c fun w c' hlt => ih w c' (by omega)

/-- **A loop without a count is in lockstep with a counted one** that has as many rounds as there
are tokens left. -/
theorem inStep {again : α → Action β} (hloop : CountedLoop input round₁ loop)
    (hstep : RoundsInStep left right input round₁ round₂) (hagain : round₂ again = again)
    (v : α) (c : Cursor) : Lockstep left right Eq (allRounds input loop v c) (again v c) := by
  rw [allRounds_apply]
  exact hloop.inStep_of_le hstep hagain _ v c (Nat.le_refl _)

variable (hstep : RoundsInStep (fun _ => False) (fun _ => False) input round round)

include hstep

theorem round_congr {again₁ again₂ : α → Action β} {v : α}
    (h : ∀ w c', (input.rest c').length < (input.rest c).length → again₁ w c' = again₂ w c') :
    round again₁ v c = round again₂ v c := by
  refine (Lockstep.eq_of_not_left (hstep _ _ v c fun w c' hlt => ?_) fun _ _ hf => hf.elim).symm
  rw [h w c' hlt]
  exact .same _

variable (hloop : CountedLoop input round loop)

include hloop

/-- **Enough rounds are enough:** more of them come to the same. -/
theorem eq_of_le (m : Nat) : ∀ n v c, (input.rest c).length ≤ m → (input.rest c).length ≤ n →
    loop m v c = loop n v c := by
  have hnone {c : Cursor} (n : Nat) (v : α) (hc : input.rest c = []) :
      loop n v c = loop 0 v c := by
    cases n with
    | zero => rfl
    | succ n => rw [hloop.succ, hloop.zero _ hc]
  induction m with
  | zero =>
    intro n v c hm _
    exact (hnone n v (List.length_eq_zero_iff.mp (Nat.le_zero.mp hm))).symm
  | succ m ih =>
    intro n v c hm hn
    cases n with
    | zero => exact hnone _ v (List.length_eq_zero_iff.mp (Nat.le_zero.mp hn))
    | succ n =>
      rw [hloop.succ, hloop.succ]
      exact round_congr hstep fun w c' hlt => ih n w c' (by omega) (by omega)

/-- **A loop of as many rounds as there are tokens left goes on until a round ends it.** -/
theorem round_all : round (allRounds input loop) = allRounds input loop := by
  funext v c
  have hmore : loop (input.rest c).length v c = loop ((input.rest c).length + 1) v c :=
    eq_of_le hstep hloop _ _ v c (Nat.le_refl _) (Nat.le_succ _)
  rw [allRounds_apply, hmore, hloop.succ]
  refine round_congr hstep fun w c' hlt => ?_
  rw [allRounds_apply]
  exact eq_of_le hstep hloop _ _ w c' (Nat.le_refl _) (Nat.le_of_lt hlt)

/-- And it is the only such loop. -/
theorem eq_allRounds {again : α → Action β} (hagain : round again = again) :
    again = allRounds input loop := by
  funext v c
  exact Lockstep.eq_of_not_left (hloop.inStep hstep hagain v c) fun _ _ hf => hf.elim

end CountedLoop

/-! ## The loops of the rules -/

theorem countedLoop_chain (input : Input) (precedence : Nat) (operand : Action Float) :
    CountedLoop input (chainRound input precedence operand)
      (chain input precedence operand) where
  zero again v c hc := by
    rw [chainRound, bind_apply, operator?_apply, hc]
    rfl
  succ count := rfl

theorem countedLoop_items (input : Input) (item : Action Float) :
    CountedLoop input (itemsRound input item) (fun count _ => items input item count) where
  zero again v c hc := by
    rw [itemsRound, bind_apply, at?_apply, hc]
    rfl
  succ count := rfl

/-- After a token and a step that does not go back, fewer tokens are left. -/
theorem rest_lt_of_onward {a : Action α} {v : α} {c' : Cursor} (honward : ∀ c, Onward a c)
    (hne : input.rest c ≠ []) (h : a (c.forward 1) = .ok v c') :
    (input.rest c').length < (input.rest c).length := by
  have hle := honward (c.forward 1)
  rw [Onward, h] at hle
  have hpos := List.length_pos_iff.mpr hne
  simp only [endOf_ok, Cursor.forward_index, length_rest] at hle hpos ⊢
  omega

variable {operand₁ operand₂ : Action Float}
variable (ho : ∀ c, Lockstep left right Eq (operand₁ c) (operand₂ c))
variable (honward : ∀ c, Onward operand₁ c)

include ho honward

/-- **The rounds of two chains are in step** where their operands are. -/
theorem chainRound_inStep (input : Input) (precedence : Nat) :
    RoundsInStep left right input (chainRound input precedence operand₁)
      (chainRound input precedence operand₂) := by
  intro again₁ again₂ v c hagain
  rw [chainRound, chainRound, bind_apply, bind_apply, operator?_apply]
  cases hop : ((input.rest c).head?.bind Token.operator?).filter (·.precedence = precedence) with
  | none => exact .pure rfl
  | some op =>
    obtain ⟨-, position, hrest⟩ := rest_of_operator? hop
    have hne : input.rest c ≠ [] := by
      rw [hrest]
      exact List.cons_ne_nil _ _
    refine Lockstep.bindAt (R := Eq) (.same _) fun _ _ c₁ hc₁ _ => ?_
    cases hc₁
    refine Lockstep.bindAt (ho _) fun w w' c₂ hw hsame => ?_
    subst hsame
    refine Lockstep.bindAt (R := Eq) (.same _) fun next next' c₃ hnext hsame => ?_
    subst hsame
    obtain ⟨-, rfl⟩ := value_eq_ok_iff.mp hnext
    exact hagain next c₂ (rest_lt_of_onward honward hne hw)

/-- And so are the rounds of two lists. -/
theorem itemsRound_inStep (input : Input) :
    RoundsInStep left right input (itemsRound input operand₁) (itemsRound input operand₂) := by
  intro again₁ again₂ v c hagain
  rw [itemsRound, itemsRound, bind_apply, bind_apply, at?_apply]
  cases hcomma : ((input.rest c).head?.map (·.lexeme.is .comma)).getD false with
  | false => exact .pure rfl
  | true =>
    obtain ⟨comma, hrest⟩ := rest_of_is hcomma
    have hne : input.rest c ≠ [] := by
      rw [hrest]
      exact List.cons_ne_nil _ _
    refine Lockstep.bindAt (R := Eq) (.same _) fun _ _ c₁ hc₁ _ => ?_
    cases hc₁
    refine Lockstep.bindAt (ho _) fun w w' c₂ hw hsame => ?_
    subst hsame
    refine Lockstep.bind (hagain () c₂ (rest_lt_of_onward honward hne hw)) fun vs vs' c₃ hsame => ?_
    subst hsame
    exact .pure rfl

omit ho

/-- **A chain of as many rounds as there are tokens left is what goes on until a round ends it,**
and nothing else is. -/
theorem chainRound_eq_iff {precedence : Nat} {again : Float → Action Float} :
    chainRound input precedence operand₁ again = again ↔
      again = allRounds input (chain input precedence operand₁) := by
  have hstep : RoundsInStep (fun _ => False) (fun _ => False) input _ _ :=
    chainRound_inStep (fun _ => .same _) honward input precedence
  have hloop := countedLoop_chain input precedence operand₁
  refine ⟨CountedLoop.eq_allRounds hstep hloop, ?_⟩
  rintro rfl
  exact CountedLoop.round_all hstep hloop

/-- And so is a list. -/
theorem itemsRound_eq_iff {again : Unit → Action (List Float)} :
    itemsRound input operand₁ again = again ↔
      again = allRounds input fun count _ => items input operand₁ count := by
  have hstep : RoundsInStep (fun _ => False) (fun _ => False) input _ _ :=
    itemsRound_inStep (fun _ => .same _) honward input
  have hloop := countedLoop_items input operand₁
  refine ⟨CountedLoop.eq_allRounds hstep hloop, ?_⟩
  rintro rfl
  exact CountedLoop.round_all hstep hloop

end Parser

end Reckon
