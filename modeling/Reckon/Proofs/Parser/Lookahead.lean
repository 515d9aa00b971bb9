import Reckon.Proofs.Parser.Steps
/-!
# Parser — one token of lookahead

A step only looks at the token at the cursor, and the cursor never moves back.
So two runs over tokens that agree up to an index are one and the same run, or
have both moved past that index (`Together`). The rules are together wherever
they start (`rulesTogether`): a run that ends at a token would end there in the
same way whatever came after that token (`Together.eq_of_le`), and so would a
rule that a parser is asked for (`rule_over_of_take`).
-/

namespace Reckon

namespace Parser

variable {α β : Type} {k : Nat} {c : Cursor}

/-- Where a run leaves the cursor. -/
def endOf : EStateM.Result Stop Cursor α → Cursor
  | .ok _ c | .error _ c => c

@[simp] theorem endOf_ok (v : α) : endOf (.ok v c : EStateM.Result Stop Cursor α) = c := rfl

@[simp] theorem endOf_error (stop : Stop) :
    endOf (.error stop c : EStateM.Result Stop Cursor α) = c := rfl

/-- **A step goes onward** where it does not move the cursor back. -/
def Onward (a : Action α) (c : Cursor) : Prop :=
  c.index ≤ (endOf (a c)).index

namespace Onward

theorem pure (v : α) : Onward (Pure.pure v) c := Nat.le_refl _

theorem value (x : Except Error α) : Onward (Parser.value x) c := by
  cases x <;> exact Nat.le_refl _

/-- One step that only looks, before another. -/
theorem look {a : Action α} {f : α → Action β} {v : α} (ha : a c = .ok v c)
    (hf : Onward (f v) c) : Onward (a >>= f) c := by
  rw [Onward, bind_apply, ha]
  exact hf

/-- What comes after a step leaves the cursor no further back than the step. -/
theorem endOf_le_bind {a : Action α} {f : α → Action β} (ha : Onward a c)
    (hf : ∀ v c', c.index ≤ c'.index → Onward (f v) c') :
    (endOf (a c)).index ≤ (endOf ((a >>= f) c)).index := by
  rw [Onward] at ha
  rw [bind_apply]
  rcases h : a c with ⟨v, c'⟩ | ⟨stop, c'⟩
  · rw [h] at ha
    exact hf v c' ha
  · exact Nat.le_refl _

/-- One step after another. -/
theorem bind {a : Action α} {f : α → Action β} (ha : Onward a c)
    (hf : ∀ v c', Onward (f v) c') : Onward (a >>= f) c :=
  Nat.le_trans ha (endOf_le_bind ha fun v c' _ => hf v c')

/-- A step after one token. -/
theorem past {f : Unit → Action β} (hf : ∀ v c', Onward (f v) c') : Onward (advance >>= f) c :=
  bind (Nat.le_succ _) hf

/-- A chain of operands that go onward. -/
theorem chain {input : Input} {precedence : Nat} {operand : Action Float}
    (ho : ∀ c, Onward operand c) (count : Nat) :
    ∀ (left : Float) (c : Cursor), Onward (chain input precedence operand count left) c := by
  induction count with
  | zero => exact fun left _ => pure left
  | succ count ih =>
    intro left c
    refine look (operator?_apply precedence) ?_
    split
    · exact pure left
    · exact past fun _ c₁ => bind (ho c₁) fun right c₂ => bind (value _) fun next c₃ => ih next c₃

/-- A list of items that do. -/
theorem items {input : Input} {item : Action Float} (hi : ∀ c, Onward item c) (count : Nat) :
    ∀ c, Onward (items input item count) c := by
  induction count with
  | zero => exact fun _ => pure []
  | succ count ih =>
    intro c
    refine look (at?_apply .comma) ?_
    split
    · exact past fun _ c₁ => bind (hi c₁) fun first c₂ => bind (ih c₂) fun rest _ => pure _
    · exact pure []

end Onward

/-- **Two steps are together up to an index** where both go onward, and both do
the same or move past the index. -/
structure Together (k : Nat) (a₁ a₂ : Action α) (c : Cursor) : Prop where
  left : Onward a₁ c
  right : Onward a₂ c
  same_or_past : a₁ c = a₂ c ∨ k < (endOf (a₁ c)).index ∧ k < (endOf (a₂ c)).index

namespace Together

/-- A step that goes onward is together with itself. -/
theorem same {a : Action α} (h : Onward a c) : Together k a a c :=
  ⟨h, h, .inl rfl⟩

theorem pure (v : α) : Together k (Pure.pure v) (Pure.pure v) c :=
  same (.pure v)

theorem fail (e : Error) : Together k (Parser.fail e : Action α) (Parser.fail e) c :=
  same (Nat.le_refl _)

theorem value (x : Except Error α) : Together k (Parser.value x) (Parser.value x) c :=
  same (.value x)

/-- Two steps that only look are together where they see the same up to the
index. -/
theorem look {a₁ a₂ : Action α} {v w : α} (h₁ : a₁ c = .ok v c) (h₂ : a₂ c = .ok w c)
    (h : c.index ≤ k → v = w) : Together k a₁ a₂ c := by
  refine ⟨by simp [Onward, h₁], by simp [Onward, h₂], ?_⟩
  rcases Nat.lt_or_ge k c.index with hk | hk
  · right
    simpa [h₁, h₂] using hk
  · left
    rw [h₁, h₂, h hk]

/-- One step after another. Where the first steps have parted, the second ones
only have to go onward. -/
theorem bind {a₁ a₂ : Action α} {f₁ f₂ : α → Action β} (ha : Together k a₁ a₂ c)
    (hf : ∀ v c', c.index ≤ c'.index → Together k (f₁ v) (f₂ v) c') :
    Together k (a₁ >>= f₁) (a₂ >>= f₂) c := by
  have hle₁ := Onward.endOf_le_bind ha.left fun v c' hc => (hf v c' hc).left
  have hle₂ := Onward.endOf_le_bind ha.right fun v c' hc => (hf v c' hc).right
  refine ⟨Nat.le_trans ha.left hle₁, Nat.le_trans ha.right hle₂, ?_⟩
  rcases ha.same_or_past with heq | ⟨h₁, h₂⟩
  · have hon := ha.left
    rw [Onward] at hon
    rw [bind_apply, bind_apply, ← heq]
    rcases h : a₁ c with ⟨v, c'⟩ | ⟨stop, c'⟩
    · rw [h] at hon
      exact (hf v c' hon).same_or_past
    · exact .inl rfl
  · exact .inr ⟨by omega, by omega⟩

/-- Two steps that have already moved past the index stay past it. -/
theorem parted {a₁ a₂ : Action α} (hk : k < c.index) (h₁ : Onward a₁ c) (h₂ : Onward a₂ c) :
    Together k a₁ a₂ c := by
  refine ⟨h₁, h₂, .inr ?_⟩
  rw [Onward] at h₁ h₂
  omega

/-- Both look first, whatever they see. -/
theorem looks {a₁ a₂ : Action α} {f₁ f₂ : α → Action β} {v w : α} (h₁ : a₁ c = .ok v c)
    (h₂ : a₂ c = .ok w c) (hf : Together k (f₁ v) (f₂ w) c) :
    Together k (a₁ >>= f₁) (a₂ >>= f₂) c := by
  refine ⟨.look h₁ hf.left, .look h₂ hf.right, ?_⟩
  rw [bind_apply, bind_apply, h₁, h₂]
  exact hf.same_or_past

/-- Both move past a token first. -/
theorem past {f₁ f₂ : Unit → Action β}
    (hf : ∀ c', c.index < c'.index → Together k (f₁ ()) (f₂ ()) c') :
    Together k (advance >>= f₁) (advance >>= f₂) c := by
  have hnext := hf (c.forward 1) (Nat.lt_succ_self _)
  refine ⟨?_, ?_, ?_⟩
  · exact Nat.le_trans (Nat.le_succ _) hnext.left
  · exact Nat.le_trans (Nat.le_succ _) hnext.right
  · exact hnext.same_or_past

end Together

variable {input input₁ input₂ : Input}

/-- Leaving a nested part moves the cursor out and no further. -/
theorem endOf_nested_index {a : Action α} (h : c.depth + 1 ≤ input.levels) :
    (endOf (nested input a c)).index = (endOf (a c.inside)).index := by
  rw [nested_of_le a h]
  rcases a c.inside with ⟨v, c'⟩ | ⟨stop, c'⟩ <;> rfl

/-- At the end of the tokens a chain ends. -/
theorem chain_of_end {precedence count : Nat} {operand : Action Float} {left : Float}
    (h : (input.rest c).head? = none) :
    chain input precedence operand count left c = .ok left c := by
  cases count with
  | zero => rfl
  | succ count =>
    rw [chain, bind_apply, operator?_apply, h]
    rfl

/-- And so does a list of items. -/
theorem items_of_end {count : Nat} {item : Action Float} (h : (input.rest c).head? = none) :
    items input item count c = .ok [] c := by
  cases count with
  | zero => rfl
  | succ count =>
    rw [items, bind_apply, at?_apply, h]
    rfl

theorem length_rest : (input.rest c).length = input.tokens.size - c.index := by
  simp [Input.rest]

/-! ## Tokens that agree up to an index -/

/-- **Two inputs share their tokens up to an index,** and all else. -/
structure Shares (k : Nat) (input₁ input₂ : Input) : Prop where
  tokens : ∀ i ≤ k, input₁.tokens[i]? = input₂.tokens[i]?
  bindings : input₁.bindings = input₂.bindings
  bound : input₁.bound = input₂.bound

namespace Shares

variable (h : Shares k input₁ input₂)

include h

/-- Up to the index both inputs have the same token at the cursor. -/
theorem head?_eq (hc : c.index ≤ k) : (input₁.rest c).head? = (input₂.rest c).head? := by
  rw [← getElem?_index, ← getElem?_index]
  exact h.tokens c.index hc

theorem levels_eq : input₁.levels = input₂.levels := by
  rw [Input.levels, Input.levels, h.bound]

theorem peek : Together k (peek input₁) (peek input₂) c :=
  .look peek_apply peek_apply h.head?_eq

theorem at? (kind : Symbol) : Together k (at? input₁ kind) (at? input₂ kind) c :=
  .look (at?_apply kind) (at?_apply kind) fun hc => by rw [h.head?_eq hc]

theorem operator? (precedence : Nat) :
    Together k (operator? input₁ precedence) (operator? input₂ precedence) c :=
  .look (operator?_apply precedence) (operator?_apply precedence) fun hc => by rw [h.head?_eq hc]

theorem require (kind : Symbol) (what : Requirement) :
    Together k (require input₁ kind what) (require input₂ kind what) c := by
  refine .bind h.peek fun found c' _ => ?_
  split
  · exact .same (Nat.le_succ _)
  · exact .fail _

/-- A nested part of both is entered or refused alike. -/
theorem nested {a₁ a₂ : Action α} (ha : Together k a₁ a₂ c.inside) :
    Together k (nested input₁ a₁) (nested input₂ a₂) c := by
  rcases Nat.lt_or_ge input₁.levels (c.depth + 1) with hl | hl
  · have h₁ := nested_of_lt a₁ hl
    have h₂ := nested_of_lt a₂ (h.levels_eq ▸ hl)
    have heq : Parser.nested input₁ a₁ c = Parser.nested input₂ a₂ c := by rw [h₁, h₂, h.bound]
    refine ⟨?_, ?_, .inl heq⟩
    · rw [Onward, h₁]
      exact Nat.le_refl _
    · rw [Onward, h₂]
      exact Nat.le_refl _
  · have hl' : c.depth + 1 ≤ input₂.levels := h.levels_eq ▸ hl
    obtain ⟨hleft, hright, hsame⟩ := ha
    refine ⟨?_, ?_, ?_⟩
    · rw [Onward, endOf_nested_index hl]
      exact hleft
    · rw [Onward, endOf_nested_index hl']
      exact hright
    · rw [endOf_nested_index hl, endOf_nested_index hl']
      rcases hsame with heq | hpast
      · rw [nested_of_le a₁ hl, nested_of_le a₂ hl', heq]
        exact .inl rfl
      · exact .inr hpast

/-- Up to the index both inputs have come to their end where one has. -/
theorem head?_eq_none (hc : c.index ≤ k) (hend : input₁.rest c = [] ∨ input₂.rest c = []) :
    (input₁.rest c).head? = none ∧ (input₂.rest c).head? = none := by
  have hsame := h.head?_eq hc
  rcases hend with hend | hend
  · rw [hend] at hsame ⊢
    exact ⟨rfl, hsame.symm⟩
  · rw [hend] at hsame ⊢
    exact ⟨hsame, rfl⟩

/-- Where one input has no token left, chains of both end or have parted. -/
theorem chain_ended {precedence n₁ n₂ : Nat} {o₁ o₂ : Action Float} {left : Float}
    (ho : ∀ c, Together k o₁ o₂ c) (hend : input₁.rest c = [] ∨ input₂.rest c = []) :
    Together k (chain input₁ precedence o₁ n₁ left) (chain input₂ precedence o₂ n₂ left) c := by
  rcases Nat.lt_or_ge k c.index with hk | hk
  · exact .parted hk (.chain (fun c => (ho c).left) _ _ _) (.chain (fun c => (ho c).right) _ _ _)
  · obtain ⟨h₁, h₂⟩ := h.head?_eq_none hk hend
    exact .look (chain_of_end h₁) (chain_of_end h₂) fun _ => rfl

/-- **Chains are together** where both may go on for as long as tokens are left. -/
theorem chain {precedence : Nat} {o₁ o₂ : Action Float} (ho : ∀ c, Together k o₁ o₂ c)
    (n₁ : Nat) : ∀ (n₂ : Nat) (left : Float) (c : Cursor),
      (input₁.rest c).length ≤ n₁ → (input₂.rest c).length ≤ n₂ →
        Together k (chain input₁ precedence o₁ n₁ left) (chain input₂ precedence o₂ n₂ left) c := by
  induction n₁ with
  | zero =>
    intro n₂ left c h₁ _
    exact h.chain_ended ho (.inl (List.length_eq_zero_iff.mp (Nat.le_zero.mp h₁)))
  | succ n₁ ih =>
    intro n₂ left c h₁ h₂
    cases n₂ with
    | zero => exact h.chain_ended ho (.inr (List.length_eq_zero_iff.mp (Nat.le_zero.mp h₂)))
    | succ n₂ =>
      simp only [length_rest] at h₁ h₂
      rw [Parser.chain, Parser.chain]
      refine .bind (h.operator? precedence) fun op? c₁ hc₁ => ?_
      cases op? with
      | none => exact .pure left
      | some op =>
        refine .past fun c₂ hc₂ => .bind (ho c₂) fun right c₃ hc₃ => ?_
        refine .bind (.value _) fun next c₄ hc₄ => ?_
        -- the operator is past, so one token less is left for one repetition less
        exact ih n₂ next c₄ (by rw [length_rest]; omega) (by rw [length_rest]; omega)

/-- The same for lists of items. -/
theorem items_ended {n₁ n₂ : Nat} {i₁ i₂ : Action Float} (hi : ∀ c, Together k i₁ i₂ c)
    (hend : input₁.rest c = [] ∨ input₂.rest c = []) :
    Together k (items input₁ i₁ n₁) (items input₂ i₂ n₂) c := by
  rcases Nat.lt_or_ge k c.index with hk | hk
  · exact .parted hk (.items (fun c => (hi c).left) _ _) (.items (fun c => (hi c).right) _ _)
  · obtain ⟨h₁, h₂⟩ := h.head?_eq_none hk hend
    exact .look (items_of_end h₁) (items_of_end h₂) fun _ => rfl

/-- **Lists of items are together** likewise. -/
theorem items {i₁ i₂ : Action Float} (hi : ∀ c, Together k i₁ i₂ c) (n₁ : Nat) :
    ∀ (n₂ : Nat) (c : Cursor), (input₁.rest c).length ≤ n₁ → (input₂.rest c).length ≤ n₂ →
      Together k (items input₁ i₁ n₁) (items input₂ i₂ n₂) c := by
  induction n₁ with
  | zero =>
    intro n₂ c h₁ _
    exact h.items_ended hi (.inl (List.length_eq_zero_iff.mp (Nat.le_zero.mp h₁)))
  | succ n₁ ih =>
    intro n₂ c h₁ h₂
    cases n₂ with
    | zero => exact h.items_ended hi (.inr (List.length_eq_zero_iff.mp (Nat.le_zero.mp h₂)))
    | succ n₂ =>
      simp only [length_rest] at h₁ h₂
      rw [Parser.items, Parser.items]
      refine .bind (h.at? .comma) fun more c₁ hc₁ => ?_
      cases more with
      | false => exact .pure []
      | true =>
        refine .past fun c₂ hc₂ => .bind (hi c₂) fun first c₃ hc₃ => ?_
        refine .bind ?_ fun rest c₄ _ => .pure _
        exact ih n₂ c₃ (by rw [length_rest]; omega) (by rw [length_rest]; omega)

end Shares

/-! ## The rules -/

/-- The rules over two inputs are together up to an index wherever they start,
in so many calls. -/
structure RulesTogether (k : Nat) (input₁ input₂ : Input) (calls : Nat) : Prop where
  expression (c : Cursor) : Together k (expression input₁ calls) (expression input₂ calls) c
  additive (c : Cursor) : Together k (additive input₁ calls) (additive input₂ calls) c
  multiplicative (c : Cursor) :
    Together k (multiplicative input₁ calls) (multiplicative input₂ calls) c
  unary (c : Cursor) : Together k (unary input₁ calls) (unary input₂ calls) c
  exponent (c : Cursor) : Together k (exponent input₁ calls) (exponent input₂ calls) c
  primary (c : Cursor) : Together k (primary input₁ calls) (primary input₂ calls) c
  arguments (name : String) (c : Cursor) :
    Together k (arguments input₁ name calls) (arguments input₂ name calls) c

namespace RulesTogether

variable {calls : Nat} (r : RulesTogether k input₁ input₂ calls) (h : Shares k input₁ input₂)

include r h

theorem additive_succ (c : Cursor) :
    Together k (Parser.additive input₁ (calls + 1)) (Parser.additive input₂ (calls + 1)) c := by
  rw [Parser.additive, Parser.additive]
  refine .bind (r.multiplicative c) fun left c₁ _ => .looks remaining_apply remaining_apply ?_
  exact h.chain r.multiplicative _ _ left c₁ (Nat.le_refl _) (Nat.le_refl _)

theorem multiplicative_succ (c : Cursor) : Together k
    (Parser.multiplicative input₁ (calls + 1)) (Parser.multiplicative input₂ (calls + 1)) c := by
  rw [Parser.multiplicative, Parser.multiplicative]
  refine .bind (r.unary c) fun left c₁ _ => .looks remaining_apply remaining_apply ?_
  exact h.chain r.unary _ _ left c₁ (Nat.le_refl _) (Nat.le_refl _)

theorem unary_succ (c : Cursor) :
    Together k (Parser.unary input₁ (calls + 1)) (Parser.unary input₂ (calls + 1)) c := by
  rw [Parser.unary, Parser.unary]
  refine .bind h.peek fun token? c₁ _ => ?_
  cases token? with
  | none => exact .fail _
  | some token =>
    simp only
    split
    · exact .past fun c₂ _ => .bind (h.nested (r.unary _)) fun v c₃ _ => .pure _
    · exact r.exponent c₁

theorem exponent_succ (c : Cursor) :
    Together k (Parser.exponent input₁ (calls + 1)) (Parser.exponent input₂ (calls + 1)) c := by
  rw [Parser.exponent, Parser.exponent]
  refine .bind (r.primary c) fun base c₁ _ => .bind (h.operator? 4) fun op? c₂ _ => ?_
  cases op? with
  | none => exact .pure base
  | some op => exact .past fun c₃ _ => .bind (h.nested (r.unary _)) fun power c₄ _ => .value _

theorem primary_succ (c : Cursor) :
    Together k (Parser.primary input₁ (calls + 1)) (Parser.primary input₂ (calls + 1)) c := by
  rw [Parser.primary, Parser.primary, h.bindings]
  refine .bind h.peek fun token? c₁ _ => ?_
  cases token? with
  | none => exact .fail _
  | some token =>
    simp only
    split
    · exact .past fun c₂ _ => .pure _
    · exact .past fun c₂ _ => .value _
    · next name _ =>
      refine .past fun c₂ _ => ?_
      cases input₂.bindings.lookup name with
      | none => exact .fail _
      | some v => exact .pure v
    · next name _ =>
      exact .past fun c₂ _ => .bind (h.nested (r.arguments name _)) fun args c₃ _ => .value _
    · refine .past fun c₂ _ => .bind (h.nested (r.expression _)) fun v c₃ _ => ?_
      exact .bind (h.require .closeParen .groupEnd) fun _ c₄ _ => .pure v
    · exact .fail _

theorem arguments_succ (name : String) (c : Cursor) : Together k
    (Parser.arguments input₁ name (calls + 1)) (Parser.arguments input₂ name (calls + 1)) c := by
  rw [Parser.arguments, Parser.arguments]
  refine .bind (h.require .openParen (.callStart name)) fun _ c₁ _ => ?_
  refine .bind (h.at? .closeParen) fun closed c₂ _ => ?_
  split
  · exact .past fun c₃ _ => .pure []
  · refine .bind (r.expression c₂) fun first c₃ _ => ?_
    refine .looks remaining_apply remaining_apply ?_
    refine .bind (h.items r.expression _ _ c₃ (Nat.le_refl _) (Nat.le_refl _)) fun rest c₄ _ => ?_
    exact .bind (h.require .closeParen .callEnd) fun _ c₅ _ => .pure _

end RulesTogether

/-- **One token of lookahead is enough.** The rules over inputs that share their
tokens up to an index are together up to it. -/
theorem rulesTogether (h : Shares k input₁ input₂) (calls : Nat) :
    RulesTogether k input₁ input₂ calls := by
  induction calls with
  | zero => constructor <;> intros <;> exact .same (Nat.le_refl _)
  | succ calls r =>
    exact {
      expression := r.additive
      additive := r.additive_succ h
      multiplicative := r.multiplicative_succ h
      unary := r.unary_succ h
      exponent := r.exponent_succ h
      primary := r.primary_succ h
      arguments := r.arguments_succ h }

/-- A run that ends before it has left the shared tokens is the same run over
both inputs. -/
theorem Together.eq_of_le {a₁ a₂ : Action α} (h : Together k a₁ a₂ c)
    (hend : (endOf (a₁ c)).index ≤ k) : a₂ c = a₁ c := by
  rcases h.same_or_past with heq | ⟨hpast, -⟩
  · exact heq.symm
  · omega

/-- What the rules have, a rule has that a parser is asked for. -/
theorem RulesTogether.action {calls : Nat} (h : RulesTogether k input₁ input₂ calls) (r : Rule)
    (c : Cursor) : Together k (r.action input₁ calls) (r.action input₂ calls) c := by
  cases r with
  | expression => exact h.expression c
  | additive => exact h.additive c
  | multiplicative => exact h.multiplicative c
  | unary => exact h.unary c
  | exponent => exact h.exponent c
  | primary => exact h.primary c

/-! ## Parsers over other tokens -/

/-- The parser that stands where another one stands, over other tokens. -/
def withTokens (p : Parser) (tokens : List Token) : Parser :=
  { p with input := { p.input with tokens := tokens.toArray } }

/-- It shares the tokens that its first ones share. -/
theorem shares_withTokens {p : Parser} {tokens : List Token}
    (h : tokens.take (k + 1) = p.input.tokens.toList.take (k + 1)) :
    Shares k p.input (p.withTokens tokens).input where
  tokens i hi := by
    have hfirst : (p.input.tokens.toList.take (k + 1))[i]? = (tokens.take (k + 1))[i]? := by rw [h]
    rw [List.getElem?_take_of_lt (by omega), List.getElem?_take_of_lt (by omega)] at hfirst
    simpa [withTokens] using hfirst
  bindings := rfl
  bound := rfl

/-- A rule leaves the parser where its run ends. -/
theorem rule_cursor (p : Parser) (r : Rule) :
    (p.rule r).2.cursor = endOf (r.action p.input (callLimit p.input.levels) p.cursor) := by
  rw [rule, run]
  rcases r.action p.input (callLimit p.input.levels) p.cursor with ⟨v, c⟩ | ⟨e | -, c⟩ <;> rfl

/-- Steps that end alike are told alike under one bound. -/
theorem run_eq_of_step {p q : Parser} {a b : Action Float} (h : b q.cursor = a p.cursor)
    (hbound : q.input.bound = p.input.bound) :
    (q.run b).1 = (p.run a).1 ∧ (q.run b).2.cursor = (p.run a).2.cursor := by
  rw [run, run, h, hbound]
  rcases a p.cursor with ⟨v, c⟩ | ⟨e | -, c⟩ <;> exact ⟨rfl, rfl⟩

/-- **A rule reads one token past its end at most.** Over all other tokens that agree with
those of the parser up to the one at which a rule ends, that one included, the rule comes to
the same value or error, and leaves the parser at the same index and depth. This holds
wherever the parser stands, and also where the rule ends behind the last token. -/
theorem rule_over_of_take (p : Parser) (r : Rule) (tokens : List Token)
    (h : tokens.take ((p.rule r).2.cursor.index + 1) =
      p.input.tokens.toList.take ((p.rule r).2.cursor.index + 1)) :
    ((p.withTokens tokens).rule r).1 = (p.rule r).1 ∧
      ((p.withTokens tokens).rule r).2.cursor = (p.rule r).2.cursor := by
  have htogether :=
    (rulesTogether (shares_withTokens h) (callLimit p.input.levels)).action r p.cursor
  have hend := congrArg Cursor.index (rule_cursor p r)
  exact run_eq_of_step (q := p.withTokens tokens) (htogether.eq_of_le (Nat.le_of_eq hend.symm)) rfl

/-- The tokens of `-(2 3`, with others behind. -/
def unclosedGroup (behind : List Token) : List Token :=
  [⟨.symbol .operator "-", 0⟩, ⟨.symbol .openParen "(", 1⟩, ⟨.number 2, 2⟩, ⟨.number 3, 4⟩] ++
    behind

/-- The second number is looked at and not read, so what is behind it does not show: the group
is refused there, and left again. -/
theorem unclosedGroup_refused :
    let tokens := unclosedGroup [⟨.symbol .closeParen ")", 5⟩]
    let p : Parser := ⟨⟨tokens.toArray, [], .whole 2⟩, ⟨0, 0⟩⟩
    let other := p.withTokens (unclosedGroup [⟨.symbol .operator "^", 5⟩, ⟨.symbol .comma ",", 6⟩])
    (p.rule .unary).1 = .error (.required .groupEnd (some ⟨.number 3, 4⟩)) ∧
      (other.rule .unary).1 = (p.rule .unary).1 ∧ (other.rule .unary).2.cursor = ⟨3, 0⟩ := by
  intro tokens p other
  have hend : (p.rule .unary).2.cursor = ⟨3, 0⟩ := rfl
  obtain ⟨hsame, hcursor⟩ := rule_over_of_take p .unary
    (unclosedGroup [⟨.symbol .operator "^", 5⟩, ⟨.symbol .comma ",", 6⟩]) (by rw [hend]; rfl)
  exact ⟨rfl, hsame, hcursor.trans hend⟩

end Parser

end Reckon
