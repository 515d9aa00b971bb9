import Reckon.Proofs.Parser.Opened
import Reckon.Proofs.Parser.Whole
/-!
# Parser — two runs in lockstep

Two runs over the same tokens go hand in hand where what a step does with
the cursor never hangs on the values (`Lockstep`): they have values that are
related, or they stop alike, unless one of them stops for a reason that is
excused. `Alike` says what two inputs need for that, step by step. What a rule
does is then in lockstep where the rules that it calls are, however many calls
these may have open (`RulesInStep`), so one induction over the calls serves
every comparison of two runs (`rulesInStep`).
-/

namespace Reckon

namespace Parser

variable {α β γ δ : Type} {left right : Stop → Prop} {c : Cursor}

/-- Two lists of one length, with related values at each place. -/
inductive Related (R : α → β → Prop) : List α → List β → Prop where
  | nil : Related R [] []
  | cons {v : α} {w : β} {vs : List α} {ws : List β} :
      R v w → Related R vs ws → Related R (v :: vs) (w :: ws)

theorem Related.length_eq {R : α → β → Prop} {vs : List α} {ws : List β} (h : Related R vs ws) :
    vs.length = ws.length := by
  induction h with
  | nil => rfl
  | cons _ _ ih => rw [List.length_cons, List.length_cons, ih]

theorem related_eq_iff {vs ws : List α} : Related Eq vs ws ↔ vs = ws := by
  constructor
  · intro h
    induction h with
    | nil => rfl
    | cons hv _ ih => rw [hv, ih]
  · rintro rfl
    induction vs with
    | nil => exact .nil
    | cons v vs ih => exact .cons rfl ih

/-- **Two runs end in lockstep:** with related values at the same cursor, or
for the same reason at the same cursor, where neither is excused. -/
inductive Lockstep (left right : Stop → Prop) (R : α → β → Prop) :
    EStateM.Result Stop Cursor α → EStateM.Result Stop Cursor β → Prop where
  /-- Both have a value. -/
  | values {v : α} {w : β} {c : Cursor} : R v w → Lockstep left right R (.ok v c) (.ok w c)
  /-- Both stop alike. -/
  | stops {stop : Stop} {c : Cursor} : Lockstep left right R (.error stop c) (.error stop c)
  /-- The first stops for an excused reason. -/
  | left {stop : Stop} {c : Cursor} {r : EStateM.Result Stop Cursor β} :
      left stop → Lockstep left right R (.error stop c) r
  /-- The second does. -/
  | right {stop : Stop} {c : Cursor} {r : EStateM.Result Stop Cursor α} :
      right stop → Lockstep left right R r (.error stop c)

namespace Lockstep

variable {R : α → β → Prop} {S : γ → δ → Prop}

/-- A run is in lockstep with itself. -/
theorem same (r : EStateM.Result Stop Cursor α) : Lockstep left right Eq r r := by
  cases r with
  | ok v c => exact values rfl
  | error stop c => exact stops

theorem pure {v : α} {w : β} (h : R v w) : Lockstep left right R
    ((Pure.pure v : Action α) c) ((Pure.pure w : Action β) c) :=
  values h

theorem fail (e : Error) : Lockstep left right R
    ((Parser.fail e : Action α) c) ((Parser.fail e : Action β) c) :=
  stops

/-- One step after another, from every two values that are related where the first
step leaves the cursor. -/
theorem bindAt {a₁ : Action α} {a₂ : Action β} {f₁ : α → Action γ} {f₂ : β → Action δ}
    (ha : Lockstep left right R (a₁ c) (a₂ c))
    (hf : ∀ v w c', a₁ c = .ok v c' → R v w → Lockstep left right S (f₁ v c') (f₂ w c')) :
    Lockstep left right S ((a₁ >>= f₁) c) ((a₂ >>= f₂) c) := by
  rw [bind_apply, bind_apply]
  generalize h₁ : a₁ c = r₁, a₂ c = r₂ at ha
  cases ha with
  | values h => exact hf _ _ _ h₁ h
  | stops => exact stops
  | left h => exact .left h
  | right h => exact .right h

/-- Wherever it leaves the cursor. -/
theorem bind {a₁ : Action α} {a₂ : Action β} {f₁ : α → Action γ} {f₂ : β → Action δ}
    (ha : Lockstep left right R (a₁ c) (a₂ c))
    (hf : ∀ v w c, R v w → Lockstep left right S (f₁ v c) (f₂ w c)) :
    Lockstep left right S ((a₁ >>= f₁) c) ((a₂ >>= f₂) c) :=
  bindAt ha fun v w c' _ => hf v w c'

theorem imp {R' : α → β → Prop} {r₁ : EStateM.Result Stop Cursor α}
    {r₂ : EStateM.Result Stop Cursor β} (h : Lockstep left right R r₁ r₂)
    (hR : ∀ v w, R v w → R' v w) : Lockstep left right R' r₁ r₂ := by
  cases h with
  | values hv => exact values (hR _ _ hv)
  | stops => exact stops
  | left hs => exact .left hs
  | right hs => exact .right hs

/-- The same step, before two that are in lockstep. -/
theorem step {a : Action α} {f₁ : α → Action γ} {f₂ : α → Action δ}
    (hf : ∀ v c, Lockstep left right S (f₁ v c) (f₂ v c)) :
    Lockstep left right S ((a >>= f₁) c) ((a >>= f₂) c) := by
  refine bind (same (a c)) fun v w c h => ?_
  subst h
  exact hf v c

/-- Runs with the same values are the same, where the first is not excused. -/
theorem eq_of_not_left {r₁ r₂ : EStateM.Result Stop Cursor α}
    (h : Lockstep left (fun _ => False) Eq r₁ r₂)
    (hleft : ∀ stop c, left stop → r₁ ≠ .error stop c) : r₂ = r₁ := by
  cases h with
  | values hv => rw [hv]
  | stops => rfl
  | left hs => exact absurd rfl (hleft _ _ hs)
  | right hs => exact hs.elim

end Lockstep

/-! ## Inputs that are alike -/

/-- **Two inputs are alike** up to related numbers: the same tokens, bindings
for the second of all names that the first has, operations that keep the
relation, and a bound for the second that is not lower. What the first then
stops for alone is excused. -/
structure Alike (left right : Stop → Prop) (R : Float → Float → Prop)
    (input₁ input₂ : Input) : Prop where
  tokens : input₁.tokens = input₂.tokens
  levels : input₁.levels ≤ input₂.levels
  bound : input₁.bound = input₂.bound ∨ left (.error (.nestingExceeded input₁.bound))
  overflow : left .overflow
  number (v : Float) : R v v
  negation {v w : Float} : R v w → R (-v) (-w)
  lookup (name : String) :
    Option.Rel R (input₁.bindings.lookup name) (input₂.bindings.lookup name) ∨
      input₁.bindings.lookup name = none ∧ left (.error (.unboundVariable name))
  operate (op : Operator) {v₁ v₂ w₁ w₂ : Float} (c : Cursor) : R v₁ v₂ → R w₁ w₂ →
    Lockstep left right R (value (operate op v₁ w₁) c) (value (operate op v₂ w₂) c)
  apply (name : String) {vs ws : List Float} (c : Cursor) : Related R vs ws →
    Lockstep left right R (value (applyNamed name vs) c) (value (applyNamed name ws) c)

variable {R : Float → Float → Prop} {input₁ input₂ : Input}

namespace Alike

variable (h : Alike left right R input₁ input₂)

include h

/-- What a step does that only looks at the tokens is the same. -/
theorem peek_eq : peek input₁ = peek input₂ := by
  funext c
  change EStateM.Result.ok input₁.tokens[c.index]? c = EStateM.Result.ok input₂.tokens[c.index]? c
  rw [h.tokens]

theorem at?_eq (kind : Symbol) : at? input₁ kind = at? input₂ kind := by
  rw [at?, at?, h.peek_eq]

theorem operator?_eq (precedence : Nat) :
    operator? input₁ precedence = operator? input₂ precedence := by
  rw [operator?, operator?, h.peek_eq]

theorem require_eq (kind : Symbol) (what : Requirement) :
    require input₁ kind what = require input₂ kind what := by
  rw [require, require, h.peek_eq]

theorem remaining_eq : remaining input₁ = remaining input₂ := by
  rw [remaining, remaining, h.tokens]

/-- The same value, or the same error. -/
theorem value (x : Except Error Float) :
    Lockstep left right R (value x c) (value x c) := by
  cases x with
  | error e => exact .fail e
  | ok v => exact .pure (h.number v)

/-- A nested part of both: where only the second may enter it, the first is
excused. -/
theorem nested {S : α → β → Prop} {a₁ : Action α} {a₂ : Action β}
    (ha : ∀ c, Lockstep left right S (a₁ c) (a₂ c)) :
    Lockstep left right S (nested input₁ a₁ c) (nested input₂ a₂ c) := by
  rcases Nat.lt_or_ge input₁.levels (c.depth + 1) with hl | hl
  · rw [nested_of_lt a₁ hl]
    -- the first run is refused: with the same bound so is the second, else it is excused
    obtain hb | hb := h.bound
    · have hl₂ : input₂.levels < c.depth + 1 := by
        rw [Input.levels, ← hb]
        exact hl
      rw [nested_of_lt a₂ hl₂, hb]
      exact .stops
    · exact .left hb
  · rw [nested_of_le a₁ hl, nested_of_le a₂ (Nat.le_trans hl h.levels)]
    have hc := ha c.inside
    generalize a₁ c.inside = r₁, a₂ c.inside = r₂ at hc
    cases hc with
    | values hv => exact .values hv
    | stops => exact .stops
    | left hs => exact .left hs
    | right hs =>
      cases r₁ <;> exact .right hs

/-- A chain of operands in lockstep. -/
theorem chain {precedence : Nat} {operand₁ operand₂ : Action Float}
    (ho : ∀ c, Lockstep left right R (operand₁ c) (operand₂ c)) (count : Nat) :
    ∀ {v w : Float} (c : Cursor), R v w → Lockstep left right R
      (chain input₁ precedence operand₁ count v c)
      (chain input₂ precedence operand₂ count w c) := by
  induction count with
  | zero => exact fun c hv => .pure hv
  | succ count ih =>
    intro v w c hv
    rw [Parser.chain, Parser.chain, h.operator?_eq]
    refine .step fun op c => ?_
    cases op with
    | none => exact .pure hv
    | some op =>
      refine .step fun _ c => .bind (ho c) fun v' w' c hv' => ?_
      exact .bind (h.operate op c hv hv') fun _ _ c hn => ih c hn

/-- And a list of items. -/
theorem items {item₁ item₂ : Action Float}
    (hi : ∀ c, Lockstep left right R (item₁ c) (item₂ c)) (count : Nat) :
    ∀ c, Lockstep left right (Related R)
      (items input₁ item₁ count c) (items input₂ item₂ count c) := by
  induction count with
  | zero => exact fun c => .pure .nil
  | succ count ih =>
    intro c
    rw [Parser.items, Parser.items, h.at?_eq]
    refine .step fun more c => ?_
    cases more with
    | false => exact .pure .nil
    | true =>
      refine .step fun _ c => .bind (hi c) fun v w c hv => ?_
      exact .bind (ih c) fun vs ws c hvs => .pure (.cons hv hvs)

end Alike

/-! ## The rules -/

/-- **The rules of two inputs run in lockstep,** and so do their loops from related values. -/
structure RulesInStep (left right : Stop → Prop) (R : Float → Float → Prop) (rs₁ rs₂ : Rules) :
    Prop where
  expression (c : Cursor) : Lockstep left right R (rs₁.expression c) (rs₂.expression c)
  additive (c : Cursor) : Lockstep left right R (rs₁.additive c) (rs₂.additive c)
  sums {v w : Float} (c : Cursor) : R v w → Lockstep left right R (rs₁.sums v c) (rs₂.sums w c)
  multiplicative (c : Cursor) :
    Lockstep left right R (rs₁.multiplicative c) (rs₂.multiplicative c)
  products {v w : Float} (c : Cursor) :
    R v w → Lockstep left right R (rs₁.products v c) (rs₂.products w c)
  unary (c : Cursor) : Lockstep left right R (rs₁.unary c) (rs₂.unary c)
  exponent (c : Cursor) : Lockstep left right R (rs₁.exponent c) (rs₂.exponent c)
  primary (c : Cursor) : Lockstep left right R (rs₁.primary c) (rs₂.primary c)
  arguments (name : String) (c : Cursor) :
    Lockstep left right (Related R) (rs₁.arguments name c) (rs₂.arguments name c)
  items (c : Cursor) : Lockstep left right (Related R) (rs₁.items () c) (rs₂.items () c)

namespace RulesInStep

variable {rs₁ rs₂ : Rules} (r : RulesInStep left right R rs₁ rs₂)
variable (h : Alike left right R input₁ input₂)

include r

theorem additive_opened (input₁ input₂ : Input) (c : Cursor) : Lockstep left right R
    ((rs₁.opened input₁).additive c) ((rs₂.opened input₂).additive c) :=
  .bind (r.multiplicative c) fun _ _ => r.sums

theorem multiplicative_opened (input₁ input₂ : Input) (c : Cursor) : Lockstep left right R
    ((rs₁.opened input₁).multiplicative c) ((rs₂.opened input₂).multiplicative c) :=
  .bind (r.unary c) fun _ _ => r.products

include h

theorem unary_opened (c : Cursor) : Lockstep left right R
    ((rs₁.opened input₁).unary c) ((rs₂.opened input₂).unary c) := by
  dsimp only [Rules.opened]
  rw [h.peek_eq]
  refine .step fun token c => ?_
  cases token with
  | none => exact .fail _
  | some token =>
    by_cases hm : token.lexeme = .symbol .operator "-"
    · simp only [hm, if_true]
      refine .step fun _ c => .bind (h.nested r.unary) fun v w c hv => ?_
      exact .pure (h.negation hv)
    · simp only [hm, if_false]
      exact r.exponent c

theorem exponent_opened (c : Cursor) : Lockstep left right R
    ((rs₁.opened input₁).exponent c) ((rs₂.opened input₂).exponent c) := by
  dsimp only [Rules.opened]
  rw [h.operator?_eq]
  refine .bind (r.primary c) fun v w c hv => .step fun op c => ?_
  cases op with
  | none => exact .pure hv
  | some op =>
    refine .step fun _ c => .bind (h.nested r.unary) fun v' w' c hv' => ?_
    exact h.operate op c hv hv'

theorem primary_opened (c : Cursor) : Lockstep left right R
    ((rs₁.opened input₁).primary c) ((rs₂.opened input₂).primary c) := by
  dsimp only [Rules.opened]
  rw [h.peek_eq, h.require_eq]
  refine .step fun token c => ?_
  cases token with
  | none => exact .fail _
  | some token =>
    obtain ⟨v | ⟨kind, name⟩, position⟩ := token
    · exact .step fun _ c => .pure (h.number v)
    · cases kind with
      | constantName => exact .step fun _ c => h.value (constantValue name)
      | variableName =>
        refine .step fun _ c => ?_
        -- bound in both or in neither, else the first run stops here and is excused
        obtain hl | ⟨hl, hleft⟩ := h.lookup name
        · generalize input₁.bindings.lookup name = x₁, input₂.bindings.lookup name = x₂ at hl
          cases hl with
          | none => exact .fail _
          | some hv => exact .pure hv
        · rw [hl]
          exact .left hleft
      | functionName =>
        refine .step fun _ c => .bind (h.nested (r.arguments name)) fun vs ws c hvs => ?_
        exact h.apply name c hvs
      | openParen =>
        refine .step fun _ c => .bind (h.nested r.expression) fun v w c hv => ?_
        exact .step fun _ c => .pure hv
      | operator | closeParen | comma => exact .fail _

theorem arguments_opened (name : String) (c : Cursor) : Lockstep left right (Related R)
    ((rs₁.opened input₁).arguments name c) ((rs₂.opened input₂).arguments name c) := by
  dsimp only [Rules.opened]
  rw [h.require_eq, h.require_eq, h.at?_eq]
  refine .step fun _ c => .step fun closed c => ?_
  cases closed with
  | true => exact .step fun _ c => .pure .nil
  | false =>
    refine .bind (r.expression c) fun v w c hv => .bind (r.items c) fun vs ws c hvs => ?_
    exact .step fun _ c => .pure (.cons hv hvs)

end RulesInStep

namespace Alike

variable (h : Alike left right R input₁ input₂)

include h

/-- The loops of limited rules are in lockstep where what they repeat is. -/
theorem allRounds_chain {precedence : Nat} {operand₁ operand₂ : Action Float}
    (ho : ∀ c, Lockstep left right R (operand₁ c) (operand₂ c)) {v w : Float} (c : Cursor)
    (hv : R v w) : Lockstep left right R
      (allRounds input₁ (Parser.chain input₁ precedence operand₁) v c)
      (allRounds input₂ (Parser.chain input₂ precedence operand₂) w c) := by
  rw [allRounds, allRounds, h.remaining_eq]
  exact .step fun count c => h.chain ho count c hv

theorem allRounds_items {item₁ item₂ : Action Float}
    (hi : ∀ c, Lockstep left right R (item₁ c) (item₂ c)) (c : Cursor) :
    Lockstep left right (Related R)
      (allRounds input₁ (fun count _ => Parser.items input₁ item₁ count) () c)
      (allRounds input₂ (fun count _ => Parser.items input₂ item₂ count) () c) := by
  rw [allRounds, allRounds, h.remaining_eq]
  exact .step fun count c => h.items hi count c

end Alike

/-- **The rules of inputs that are alike run in lockstep,** the first in no
more calls than the second. -/
theorem rulesInStep (h : Alike left right R input₁ input₂) :
    ∀ {m n : Nat}, m ≤ n → RulesInStep left right R (limited input₁ m) (limited input₂ n) := by
  intro m
  induction m with
  | zero =>
    intro n _
    -- without a call the first run stops short of calls, which is excused
    exact {
      expression := fun _ => .left h.overflow
      additive := fun _ => .left h.overflow
      sums := h.allRounds_chain fun _ => .left h.overflow
      multiplicative := fun _ => .left h.overflow
      products := h.allRounds_chain fun _ => .left h.overflow
      unary := fun _ => .left h.overflow
      exponent := fun _ => .left h.overflow
      primary := fun _ => .left h.overflow
      arguments := fun _ _ => .left h.overflow
      items := h.allRounds_items fun _ => .left h.overflow }
  | succ m ih =>
    intro n hn
    -- the second run has a call left wherever the first has
    obtain ⟨n, rfl⟩ : ∃ k, n = k + 1 := ⟨n - 1, by omega⟩
    have r := ih (Nat.le_of_succ_le_succ hn)
    exact {
      expression := r.additive
      additive := r.additive_opened input₁ input₂
      sums := h.allRounds_chain (r.multiplicative_opened input₁ input₂)
      multiplicative := r.multiplicative_opened input₁ input₂
      products := h.allRounds_chain (r.unary_opened h)
      unary := r.unary_opened h
      exponent := r.exponent_opened h
      primary := r.primary_opened h
      arguments := fun name c => by
        rw [← opened_limited_arguments, ← opened_limited_arguments]
        exact r.arguments_opened h name c
      items := h.allRounds_items r.additive }

/-- And so do the steps of the whole sequence. -/
theorem whole_inStep (h : Alike left right R input₁ input₂) (c : Cursor) :
    Lockstep left right R (whole input₁ c) (whole input₂ c) := by
  have hcalls : callLimit input₁.levels ≤ callLimit input₂.levels := by
    have := h.levels
    rw [callLimit, callLimit]
    omega
  rw [whole, whole, h.tokens, h.remaining_eq]
  refine .step fun _ c => .bind ((rulesInStep h hcalls).expression c) fun v w c hv => ?_
  refine .step fun count c => ?_
  split
  · exact .pure hv
  · exact .fail _

/-! ## The same numbers -/

/-- Inputs are alike up to the same numbers whatever is computed from them. -/
theorem Alike.of_eq (tokens : input₁.tokens = input₂.tokens)
    (levels : input₁.levels ≤ input₂.levels)
    (bound : input₁.bound = input₂.bound ∨ left (.error (.nestingExceeded input₁.bound)))
    (overflow : left .overflow)
    (lookup : ∀ name, input₁.bindings.lookup name = input₂.bindings.lookup name ∨
      input₁.bindings.lookup name = none ∧ left (.error (.unboundVariable name))) :
    Alike left right Eq input₁ input₂ where
  tokens := tokens
  levels := levels
  bound := bound
  overflow := overflow
  number _ := rfl
  negation hv := congrArg _ hv
  lookup name := by
    refine (lookup name).imp_left fun hl => ?_
    rw [hl]
    cases input₂.bindings.lookup name with
    | none => exact .none
    | some v => exact .some rfl
  operate op _ _ _ _ c hv hw := by
    subst hv
    subst hw
    exact .same _
  apply name vs ws c hvs := by
    rw [related_eq_iff.mp hvs]
    exact .same _

/-- **Parsers of such inputs give the same answer** at the same cursor, where the
first does not fail for what is excused. -/
theorem Alike.parse_eq (h : Alike left (fun _ => False) Eq input₁ input₂)
    (hleft : ∀ e, left (.error e) → (Parser.mk input₁ c).parse.1 ≠ .error e) :
    (Parser.mk input₂ c).parse.1 = (Parser.mk input₁ c).parse.1 ∧
      (Parser.mk input₂ c).parse.2.cursor = (Parser.mk input₁ c).parse.2.cursor := by
  have hsteps := whole_inStep h c
  have hcalls := whole_not_overflow input₁ c
  simp only [parse_eq_run, run] at hleft ⊢
  generalize whole input₁ c = r₁ at hsteps hcalls hleft ⊢
  generalize whole input₂ c = r₂ at hsteps ⊢
  cases hsteps with
  | values hv =>
    subst hv
    exact ⟨rfl, rfl⟩
  | @stops stop c' =>
    cases stop with
    | error e => exact ⟨rfl, rfl⟩
    | overflow => exact absurd rfl (hcalls c')
  | @left stop c' _ hs =>
    -- only the first run may be excused, and its answer says that it was not
    cases stop with
    | error e => exact absurd rfl (hleft e hs)
    | overflow => exact absurd rfl (hcalls c')
  | right hs => exact hs.elim

end Parser

end Reckon
