import Reckon.Proofs.Parser.Steps
/-!
# Parser — the calls that a nesting bound needs

A rule opens at most seven calls before the next nested part, and a nested
part is only entered below the bound. So a rule that is given seven calls
for each nested part that may still be opened, and those that it takes to
get to an operand, is never short of calls: `rulesBounded`. A parser gives
its rules that many (`rule_not_overflow`), hence no call of it ends for
want of calls.
-/

namespace Reckon

namespace Parser

variable {α β : Type} {input : Input} {c : Cursor}

/-- **A step keeps within its calls** where it does not run short of them,
and is as deep as before once it has a value. -/
def Bounded (a : Action α) (c : Cursor) : Prop :=
  match a c with
  | .ok _ c' => c'.depth = c.depth
  | .error stop _ => stop ≠ .overflow

/-- Whether so many calls are enough at a cursor for a rule that takes
`frames` of them to get to an operand: each nested part takes seven. -/
def Affords (input : Input) (calls frames : Nat) (c : Cursor) : Prop :=
  7 * (input.levels - c.depth) + frames ≤ calls

namespace Bounded

/-- A step that stops with an error, or moves on at its depth, is bounded. -/
theorem pure (v : α) : Bounded (pure v) c := rfl

theorem fail (e : Error) : Bounded (fail e : Action α) c := by
  simp [Bounded]

theorem value (x : Except Error α) : Bounded (value x) c := by
  cases x <;> simp [Bounded]

theorem require (kind : Symbol) (what : Requirement) : Bounded (require input kind what) c := by
  rw [Bounded, require_apply]
  by_cases h : ((input.rest c).head?.map (·.lexeme.is kind)).getD false <;> simp [h]

/-- One bounded step after another. -/
theorem bind {a : Action α} {f : α → Action β} (ha : Bounded a c)
    (hf : ∀ v c', c'.depth = c.depth → Bounded (f v) c') : Bounded (a >>= f) c := by
  rw [Bounded] at ha ⊢
  rw [bind_apply]
  rcases h : a c with ⟨v, c'⟩ | ⟨stop, c'⟩
  · rw [h] at ha
    have hb := hf v c' ha
    rw [Bounded] at hb
    rcases hw : f v c' with ⟨w, c''⟩ | ⟨stop, c''⟩
    · simp only [hw] at hb ⊢
      exact hb.trans ha
    · simp only [hw] at hb ⊢
      exact hb
  · rw [h] at ha
    exact ha

/-- A nested part that is bounded inside is bounded outside, and one that is
refused needs no calls. -/
theorem nested {a : Action α} (ha : c.depth + 1 ≤ input.levels → Bounded a c.inside) :
    Bounded (nested input a) c := by
  rw [Bounded]
  rcases Nat.lt_or_ge input.levels (c.depth + 1) with h | h
  · rw [nested_of_lt a h]
    simp
  · have hb := ha h
    rw [Bounded] at hb
    rw [nested_of_le a h]
    -- leaving the part undoes the step inside, since the part is as deep as it was
    rcases hv : a c.inside with ⟨v, c'⟩ | ⟨stop, c'⟩
    · rw [hv] at hb
      simp only [Cursor.inside_depth, Cursor.outside_depth] at hb ⊢
      omega
    · rw [hv] at hb
      exact hb

/-- A chain of bounded operands is bounded. -/
theorem chain {precedence : Nat} {operand : Action Float} {depth : Nat}
    (h : ∀ c, c.depth = depth → Bounded operand c) (count : Nat) :
    ∀ left c, c.depth = depth → Bounded (chain input precedence operand count left) c := by
  -- on the count: an operand leaves the depth as it was, and so affords the rest as much
  induction count with
  | zero => exact fun left c _ => pure left
  | succ count ih =>
    intro left c hc
    rw [Parser.chain]
    refine bind (by simp [Bounded]) fun op c₁ h₁ => ?_
    cases op with
    | none => exact pure left
    | some op =>
      refine bind rfl fun _ c₂ h₂ => bind (h c₂ (by omega)) fun right c₃ h₃ => ?_
      exact bind (value _) fun next c₄ h₄ => ih next c₄ (by omega)

/-- And so is a list of bounded items. -/
theorem items {item : Action Float} {depth : Nat}
    (h : ∀ c, c.depth = depth → Bounded item c) (count : Nat) :
    ∀ c, c.depth = depth → Bounded (items input item count) c := by
  induction count with
  | zero => exact fun c _ => pure []
  | succ count ih =>
    intro c hc
    rw [Parser.items]
    refine bind (by simp [Bounded]) fun more c₁ h₁ => ?_
    cases more with
    | false => exact pure []
    | true =>
      refine bind rfl fun _ c₂ h₂ => bind (h c₂ (by omega)) fun first c₃ h₃ => ?_
      exact bind (ih c₃ (by omega)) fun rest c₄ h₄ => pure _

end Bounded

/-! ## The rules -/

/-- The rules are bounded wherever so many calls are enough for them. -/
structure RulesBounded (input : Input) (calls : Nat) : Prop where
  expression {c : Cursor} : Affords input calls 6 c → Bounded (expression input calls) c
  additive {c : Cursor} : Affords input calls 5 c → Bounded (additive input calls) c
  multiplicative {c : Cursor} : Affords input calls 4 c → Bounded (multiplicative input calls) c
  unary {c : Cursor} : Affords input calls 3 c → Bounded (unary input calls) c
  exponent {c : Cursor} : Affords input calls 2 c → Bounded (exponent input calls) c
  primary {c : Cursor} : Affords input calls 1 c → Bounded (primary input calls) c
  arguments {c : Cursor} (name : String) :
    Affords input calls 7 c → Bounded (arguments input name calls) c

namespace Affords

variable {calls frames : Nat}

/-- A call fewer for a rule that is a call nearer to an operand. -/
theorem call {c' : Cursor} (h : Affords input (calls + 1) (frames + 1) c)
    (hc : c'.depth = c.depth) : Affords input calls frames c' := by
  rw [Affords] at h ⊢
  rw [hc]
  omega

/-- The calls of a nested part that is entered. -/
theorem inside {c' : Cursor} (h : Affords input (calls + 1) frames c) (hc : c'.depth = c.depth)
    (hl : c'.depth + 1 ≤ input.levels) (hframes : 1 ≤ frames) :
    Affords input calls 7 c'.inside := by
  rw [Affords] at h ⊢
  rw [Cursor.inside_depth, hc]
  omega

theorem mono {more : Nat} (h : Affords input calls more c) (hle : frames ≤ more) :
    Affords input calls frames c := by
  rw [Affords] at h ⊢
  omega

end Affords

namespace RulesBounded

variable {calls : Nat} (r : RulesBounded input calls)

include r

theorem additive_succ (h : Affords input (calls + 1) 5 c) :
    Bounded (Parser.additive input (calls + 1)) c := by
  rw [Parser.additive]
  refine .bind (r.multiplicative (h.call rfl)) fun left c₁ h₁ => ?_
  refine .bind (by simp [Bounded]) fun count c₂ h₂ => ?_
  exact .chain (fun c' hc => r.multiplicative (h.call hc)) count left c₂ (by omega)

theorem multiplicative_succ (h : Affords input (calls + 1) 4 c) :
    Bounded (Parser.multiplicative input (calls + 1)) c := by
  rw [Parser.multiplicative]
  refine .bind (r.unary (h.call rfl)) fun left c₁ h₁ => ?_
  refine .bind (by simp [Bounded]) fun count c₂ h₂ => ?_
  exact .chain (fun c' hc => r.unary (h.call hc)) count left c₂ (by omega)

theorem unary_succ (h : Affords input (calls + 1) 3 c) :
    Bounded (Parser.unary input (calls + 1)) c := by
  rw [Parser.unary]
  refine .bind (by simp [Bounded]) fun token c₁ h₁ => ?_
  cases token with
  | none => exact .fail _
  | some token =>
    simp only
    split
    · refine .bind rfl fun _ c₂ h₂ => ?_
      -- the part is only entered below the bound, which leaves seven calls more for it
      have hc : c₂.depth = c.depth := h₂.trans h₁
      refine .bind (.nested fun hl => ?_) fun v c₃ _ => .pure _
      exact r.unary ((h.inside hc hl (by omega)).mono (by omega))
    · exact r.exponent (h.call h₁)

theorem exponent_succ (h : Affords input (calls + 1) 2 c) :
    Bounded (Parser.exponent input (calls + 1)) c := by
  rw [Parser.exponent]
  refine .bind (r.primary (h.call rfl)) fun base c₁ h₁ => ?_
  refine .bind (by simp [Bounded]) fun op c₂ h₂ => ?_
  cases op with
  | none => exact .pure _
  | some op =>
    refine .bind rfl fun _ c₃ h₃ => ?_
    have hc : c₃.depth = c.depth := h₃.trans (h₂.trans h₁)
    refine .bind (.nested fun hl => ?_) fun v c₄ _ => .value _
    exact r.unary ((h.inside hc hl (by omega)).mono (by omega))

theorem primary_succ (h : Affords input (calls + 1) 1 c) :
    Bounded (Parser.primary input (calls + 1)) c := by
  rw [Parser.primary]
  refine .bind (by simp [Bounded]) fun token c₁ h₁ => ?_
  cases token with
  | none => exact .fail _
  | some token =>
    simp only
    split
    · exact .bind rfl fun _ c₂ _ => .pure _
    · exact .bind rfl fun _ c₂ _ => .value _
    · refine .bind rfl fun _ c₂ _ => ?_
      split
      · exact .pure _
      · exact .fail _
    · refine .bind rfl fun _ c₂ h₂ => .bind (.nested fun hl => ?_) fun args c₃ _ => .value _
      exact r.arguments _ (h.inside (h₂.trans h₁) hl (by omega))
    · refine .bind rfl fun _ c₂ h₂ => .bind (.nested fun hl => ?_) fun v c₃ _ => ?_
      · exact r.expression ((h.inside (h₂.trans h₁) hl (by omega)).mono (by omega))
      · exact .bind (.require _ _) fun _ c₄ _ => .pure _
    · exact .fail _

theorem arguments_succ (name : String) (h : Affords input (calls + 1) 7 c) :
    Bounded (Parser.arguments input name (calls + 1)) c := by
  rw [Parser.arguments]
  refine .bind (.require _ _) fun _ c₁ h₁ => .bind (by simp [Bounded]) fun closed c₂ h₂ => ?_
  cases closed with
  | true => exact .bind rfl fun _ c₃ _ => .pure _
  | false =>
    refine .bind (r.expression (h.call (h₂.trans h₁))) fun first c₃ h₃ => ?_
    refine .bind (by simp [Bounded]) fun count c₄ h₄ => ?_
    refine .bind (.items (fun c' hc => r.expression (h.call hc)) count c₄ (by omega))
      fun rest c₅ _ => ?_
    exact .bind (.require _ _) fun _ c₆ _ => .pure _

end RulesBounded

/-- **The rules are bounded wherever their calls are enough.** -/
theorem rulesBounded (input : Input) (calls : Nat) : RulesBounded input calls := by
  induction calls with
  | zero =>
    -- nothing affords a rule without a call, not even the base of the recursion
    constructor <;> intros <;> rename_i h <;> simp [Affords] at h
  | succ calls r =>
    exact {
      expression := fun h => r.additive (h.call rfl)
      additive := r.additive_succ
      multiplicative := r.multiplicative_succ
      unary := r.unary_succ
      exponent := r.exponent_succ
      primary := r.primary_succ
      arguments := r.arguments_succ }

/-- **No rule of a parser runs short of calls,** wherever the parser stands. -/
theorem rule_not_overflow (input : Input) (r : Rule) (c c' : Cursor) :
    r.action input (callLimit input.levels) c ≠ .error .overflow c' := by
  -- the limit leaves room for the longest way to an operand at any depth
  have enough : ∀ frames ≤ 6, Affords input (callLimit input.levels) frames c := by
    intro frames h
    rw [Affords, callLimit]
    omega
  have bounded : Bounded (r.action input (callLimit input.levels)) c := by
    have all := rulesBounded input (callLimit input.levels)
    cases r
    · exact all.expression (enough 6 (by omega))
    · exact all.additive (enough 5 (by omega))
    · exact all.multiplicative (enough 4 (by omega))
    · exact all.unary (enough 3 (by omega))
    · exact all.exponent (enough 2 (by omega))
    · exact all.primary (enough 1 (by omega))
  intro h
  rw [Bounded, h] at bounded
  exact bounded rfl

end Parser

end Reckon
