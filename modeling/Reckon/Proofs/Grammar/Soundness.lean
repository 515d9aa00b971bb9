import Reckon.Proofs.Grammar.Nesting
import Reckon.Proofs.Parser.Success
/-!
# Grammar — a value has a derivation

A rule that has a value has read the tokens of a tree of its part, is as
deep as before, and the value is what the tree means under the bound
(`rulesDerive`). This is an induction over the calls of a run: each rule is
opened once, and the trees of its parts make up its own.
-/

namespace Reckon

namespace Parser

open Grammar

variable {α β : Type} {input : Input} {c c' : Cursor}

/-- **A step derives a part:** where it has a value, it has read the tokens of
a tree of the part, and the value is what is made of the tree's meaning. -/
def Derives (input : Input) (bound : Nat) (p : Part) (a : Action α)
    (result : p.Meaning → Except Error α) : Prop :=
  ∀ {c c' : Cursor} {v : α}, a c = .ok v c' → ∃ t : Tree p,
    input.rest c = t.yield ++ input.rest c' ∧ c'.depth = c.depth ∧
      result (t.meaning input.bindings (Tree.withinBound bound) c.depth) = .ok v

/-- The rules derive their parts in so many calls. -/
structure RulesDerive (input : Input) (bound calls : Nat) : Prop where
  expression : Derives input bound .expression (expression input calls) id
  additive : Derives input bound .additive (additive input calls) id
  multiplicative : Derives input bound .multiplicative (multiplicative input calls) id
  unary : Derives input bound .unary (unary input calls) id
  exponent : Derives input bound .exponent (exponent input calls) id
  primary : Derives input bound .primary (primary input calls) id
  arguments (name : String) : Derives input bound .arguments (arguments input name calls) id

variable {bound : Nat}

/-- What a nested part derives has passed the gate, and the depth is back
where it was. -/
theorem Derives.nested {p : Part} {a : Action α} {result : p.Meaning → Except Error α} {v : α}
    (h : Derives input bound p a result) (hbound : input.bound = .whole bound)
    (hv : nested input a c = .ok v c') : ∃ t : Tree p,
      input.rest c = t.yield ++ input.rest c' ∧ c'.depth = c.depth ∧
        Tree.withinBound bound (c.depth + 1) = .ok () ∧
        result (t.meaning input.bindings (Tree.withinBound bound) (c.depth + 1)) = .ok v := by
  obtain ⟨hl, c₁, ha, rfl⟩ := nested_eq_ok hv
  obtain ⟨t, hr, hd, hm⟩ := h ha
  -- the levels of a whole bound are the bound, so the gate of the tree opens as well
  have hlevels : input.levels = bound := by simp [Input.levels, hbound, Quantity.floor]
  have hgate := Tree.withinBound_eq_ok_iff.mpr (hlevels ▸ hl)
  rw [Cursor.inside_depth] at hd
  exact ⟨t, hr, by rw [Cursor.outside_depth, hd, Nat.add_sub_cancel], hgate, hm⟩

/-- A chain of products derives what is added to the first. -/
theorem sums_derive {operand : Action Float}
    (h : Derives input bound .multiplicative operand id) (count : Nat) :
    ∀ left, Derives input bound .sums (chain input 2 operand count left) (· left) := by
  induction count with
  | zero =>
    intro left c c' v hv
    obtain ⟨rfl, rfl⟩ := pure_eq_ok_iff.mp hv
    exact ⟨.lastSum, rfl, rfl, rfl⟩
  | succ count ih =>
    intro left c c' v hv
    obtain ⟨rfl, rfl⟩ | ⟨op, position, right, next, c₁, level, hop, hright, hnext, hv⟩ :=
      chain_eq_ok hv
    · exact ⟨.lastSum, rfl, rfl, rfl⟩
    · obtain ⟨operand, ho, hod, hom⟩ := h hright
      obtain ⟨rest, hr, hrd, hrm⟩ := ih next hv
      -- the operand is back at the depth of the chain, where the rest is evaluated
      rw [hod] at hrd hrm
      refine ⟨.sum op level position operand rest, ?_, hrd, ?_⟩
      · rw [hop, ho, hr]
        simp [Tree.yield]
      · exact Except.bind_eq_ok_iff.mpr ⟨right, hom, Except.bind_eq_ok_iff.mpr ⟨next, hnext, hrm⟩⟩

/-- A chain of factors derives what the first is multiplied with. -/
theorem products_derive {operand : Action Float}
    (h : Derives input bound .unary operand id) (count : Nat) :
    ∀ left, Derives input bound .products (chain input 3 operand count left) (· left) := by
  induction count with
  | zero =>
    intro left c c' v hv
    obtain ⟨rfl, rfl⟩ := pure_eq_ok_iff.mp hv
    exact ⟨.lastProduct, rfl, rfl, rfl⟩
  | succ count ih =>
    intro left c c' v hv
    obtain ⟨rfl, rfl⟩ | ⟨op, position, right, next, c₁, level, hop, hright, hnext, hv⟩ :=
      chain_eq_ok hv
    · exact ⟨.lastProduct, rfl, rfl, rfl⟩
    · obtain ⟨operand, ho, hod, hom⟩ := h hright
      obtain ⟨rest, hr, hrd, hrm⟩ := ih next hv
      rw [hod] at hrd hrm
      refine ⟨.product op level position operand rest, ?_, hrd, ?_⟩
      · rw [hop, ho, hr]
        simp [Tree.yield]
      · exact Except.bind_eq_ok_iff.mpr ⟨right, hom, Except.bind_eq_ok_iff.mpr ⟨next, hnext, hrm⟩⟩

/-- A list of items derives the further items of a list. -/
theorem items_derive {item : Action Float} (h : Derives input bound .expression item id)
    (count : Nat) : Derives input bound .items (items input item count) id := by
  induction count with
  | zero =>
    intro c c' vs hvs
    obtain ⟨rfl, rfl⟩ := pure_eq_ok_iff.mp hvs
    exact ⟨.lastItem, rfl, rfl, rfl⟩
  | succ count ih =>
    intro c c' vs hvs
    obtain ⟨rfl, rfl⟩ | ⟨comma, v, rest, c₁, rfl, hcomma, hv, hvs⟩ := items_eq_ok hvs
    · exact ⟨.lastItem, rfl, rfl, rfl⟩
    · obtain ⟨argument, ha, had, ham⟩ := h hv
      obtain ⟨rest, hr, hrd, hrm⟩ := ih hvs
      rw [had] at hrd hrm
      refine ⟨.item comma argument rest, ?_, hrd, ?_⟩
      · rw [hcomma, ha, hr]
        simp [Tree.yield]
      · exact Except.bind_eq_ok_iff.mpr ⟨v, ham, Except.bind_eq_ok_iff.mpr ⟨_, hrm, rfl⟩⟩

namespace RulesDerive

variable {calls : Nat} (r : RulesDerive input bound calls)

include r

theorem expression_succ :
    Derives input bound .expression (Parser.expression input (calls + 1)) id := by
  intro c c' v hv
  obtain ⟨sum, hs, hd, hm⟩ := r.additive hv
  exact ⟨.expression sum, hs, hd, hm⟩

theorem additive_succ : Derives input bound .additive (Parser.additive input (calls + 1)) id := by
  intro c c' v hv
  rw [Parser.additive] at hv
  obtain ⟨left, c₁, hleft, hv⟩ := bind_eq_ok_iff.mp hv
  obtain ⟨first, hf, hfd, hfm⟩ := r.multiplicative hleft
  obtain ⟨count, c₂, hcount, hv⟩ := bind_eq_ok_iff.mp hv
  obtain ⟨rfl, rfl⟩ := EStateM.Result.ok.inj hcount
  obtain ⟨rest, hr, hrd, hrm⟩ := sums_derive r.multiplicative _ left hv
  rw [hfd] at hrd hrm
  refine ⟨.additive first rest, ?_, hrd, ?_⟩
  · rw [hf, hr]
    simp [Tree.yield]
  · exact Except.bind_eq_ok_iff.mpr ⟨left, hfm, hrm⟩

theorem multiplicative_succ :
    Derives input bound .multiplicative (Parser.multiplicative input (calls + 1)) id := by
  intro c c' v hv
  rw [Parser.multiplicative] at hv
  obtain ⟨left, c₁, hleft, hv⟩ := bind_eq_ok_iff.mp hv
  obtain ⟨first, hf, hfd, hfm⟩ := r.unary hleft
  obtain ⟨count, c₂, hcount, hv⟩ := bind_eq_ok_iff.mp hv
  obtain ⟨rfl, rfl⟩ := EStateM.Result.ok.inj hcount
  obtain ⟨rest, hr, hrd, hrm⟩ := products_derive r.unary _ left hv
  rw [hfd] at hrd hrm
  refine ⟨.multiplicative first rest, ?_, hrd, ?_⟩
  · rw [hf, hr]
    simp [Tree.yield]
  · exact Except.bind_eq_ok_iff.mpr ⟨left, hfm, hrm⟩

theorem unary_succ (hbound : input.bound = .whole bound) :
    Derives input bound .unary (Parser.unary input (calls + 1)) id := by
  intro c c' v hv
  rw [Parser.unary] at hv
  obtain ⟨token?, c₁, hpeek, hv⟩ := bind_eq_ok_iff.mp hv
  obtain ⟨rfl, htoken⟩ := peek_eq_ok hpeek
  cases token? with
  | none => cases hv
  | some token =>
    simp only at hv
    split at hv
    · next hminus =>
      obtain ⟨w, c₂, hw, hv⟩ := bind_eq_ok_iff.mp (advance_bind_eq_ok hv)
      obtain ⟨rfl, rfl⟩ := pure_eq_ok_iff.mp hv
      obtain ⟨operand, ho, hod, hgate, hom⟩ := Derives.nested r.unary hbound hw
      refine ⟨.negation token.position operand, ?_, hod, ?_⟩
      -- the token of a sign has no more to it than its position
      · obtain ⟨lexeme, position⟩ := token
        obtain rfl : lexeme = .symbol .operator "-" := hminus
        rw [rest_eq_cons htoken, ho]
        rfl
      · exact Except.bind_eq_ok_iff.mpr ⟨(), hgate, Except.bind_eq_ok_iff.mpr ⟨w, hom, rfl⟩⟩
    · obtain ⟨power, hp, hpd, hpm⟩ := r.exponent hv
      exact ⟨.unsigned power, hp, hpd, hpm⟩

theorem exponent_succ (hbound : input.bound = .whole bound) :
    Derives input bound .exponent (Parser.exponent input (calls + 1)) id := by
  intro c c' v hv
  rw [Parser.exponent] at hv
  obtain ⟨left, c₁, hleft, hv⟩ := bind_eq_ok_iff.mp hv
  obtain ⟨base, hb, hbd, hbm⟩ := r.primary hleft
  obtain ⟨op?, c₂, hop, hv⟩ := bind_eq_ok_iff.mp hv
  obtain ⟨rfl, hop⟩ := operator?_eq_ok hop
  cases op? with
  | none =>
    obtain ⟨rfl, rfl⟩ := pure_eq_ok_iff.mp hv
    exact ⟨.single base, hb, hbd, hbm⟩
  | some op =>
    obtain ⟨level, position, hrest⟩ := hop op rfl
    obtain ⟨right, c₃, hright, hvalue⟩ := bind_eq_ok_iff.mp (advance_bind_eq_ok hv)
    obtain ⟨hresult, rfl⟩ := value_eq_ok_iff.mp hvalue
    obtain ⟨power, hp, hpd, hgate, hpm⟩ := Derives.nested r.unary hbound hright
    -- the base left the depth alone, so the gate was asked one level below it
    rw [Cursor.forward_depth, hbd] at hpd hgate hpm
    refine ⟨.power base op level position power, ?_, hpd, ?_⟩
    · rw [hb, hrest, hp]
      simp [Tree.yield]
    · exact Except.bind_eq_ok_iff.mpr ⟨left, hbm, Except.bind_eq_ok_iff.mpr ⟨(), hgate,
        Except.bind_eq_ok_iff.mpr ⟨right, hpm, hresult⟩⟩⟩

theorem primary_succ (hbound : input.bound = .whole bound) :
    Derives input bound .primary (Parser.primary input (calls + 1)) id := by
  intro c c' v hv
  rw [Parser.primary] at hv
  obtain ⟨token?, c₁, hpeek, hv⟩ := bind_eq_ok_iff.mp hv
  obtain ⟨rfl, htoken⟩ := peek_eq_ok hpeek
  cases token? with
  | none => cases hv
  | some token =>
    have hrest := rest_eq_cons htoken
    obtain ⟨lexeme, position⟩ := token
    simp only at hv
    split at hv
    · next w =>
      have hv := advance_bind_eq_ok hv
      obtain ⟨rfl, rfl⟩ := pure_eq_ok_iff.mp hv
      exact ⟨.number w position, hrest, rfl, rfl⟩
    · next name =>
      obtain ⟨hvalue, rfl⟩ := value_eq_ok_iff.mp (advance_bind_eq_ok hv)
      exact ⟨.constantName name position, hrest, rfl, hvalue⟩
    · next name =>
      have hv := advance_bind_eq_ok hv
      cases hw : input.bindings.lookup name with
      | none =>
        rw [hw] at hv
        cases hv
      | some w =>
        rw [hw] at hv
        obtain ⟨rfl, rfl⟩ := pure_eq_ok_iff.mp hv
        exact ⟨.variableName name position, hrest, rfl, by
          simp only [Tree.meaning, boundValue, hw, id]⟩
    · next name =>
      obtain ⟨values, c₂, hvalues, hvalue⟩ := bind_eq_ok_iff.mp (advance_bind_eq_ok hv)
      obtain ⟨hresult, rfl⟩ := value_eq_ok_iff.mp hvalue
      obtain ⟨args, ha, had, hgate, ham⟩ := Derives.nested (r.arguments name) hbound hvalues
      refine ⟨.call name position args, ?_, had, ?_⟩
      · rw [hrest, ha]
        rfl
      · exact Except.bind_eq_ok_iff.mpr
          ⟨(), hgate, Except.bind_eq_ok_iff.mpr ⟨values, ham, hresult⟩⟩
    · next text =>
      obtain ⟨w, c₂, hw, hv⟩ := bind_eq_ok_iff.mp (advance_bind_eq_ok hv)
      obtain ⟨_, c₃, hclose, hv⟩ := bind_eq_ok_iff.mp hv
      obtain ⟨rfl, rfl⟩ := pure_eq_ok_iff.mp hv
      obtain ⟨rfl, closing, hclose⟩ := require_eq_ok hclose
      obtain ⟨inside, hi, hid, hgate, him⟩ := Derives.nested r.expression hbound hw
      refine ⟨.group ⟨text, position⟩ inside closing, ?_, hid, ?_⟩
      · rw [hrest, hi, hclose]
        simp [Tree.yield, Mark.token]
      · exact Except.bind_eq_ok_iff.mpr ⟨(), hgate, him⟩
    · cases hv

theorem arguments_succ (name : String) :
    Derives input bound .arguments (Parser.arguments input name (calls + 1)) id := by
  intro c c' vs hvs
  rw [Parser.arguments] at hvs
  obtain ⟨_, c₁, hopen, hvs⟩ := bind_eq_ok_iff.mp hvs
  obtain ⟨rfl, opening, hopen⟩ := require_eq_ok hopen
  obtain ⟨closed, c₂, hat, hvs⟩ := bind_eq_ok_iff.mp hvs
  obtain ⟨rfl, hclosed⟩ := at?_eq_ok hat
  cases closed with
  | true =>
    obtain ⟨closing, hclose⟩ := hclosed rfl
    rw [if_pos rfl] at hvs
    have hvs := advance_bind_eq_ok hvs
    obtain ⟨rfl, rfl⟩ := pure_eq_ok_iff.mp hvs
    refine ⟨.noArguments opening closing, ?_, rfl, rfl⟩
    rw [hopen, hclose]
    rfl
  | false =>
    obtain ⟨v, c₃, hv, hvs⟩ := bind_eq_ok_iff.mp hvs
    obtain ⟨first, hf, hfd, hfm⟩ := r.expression hv
    obtain ⟨count, c₄, hcount, hvs⟩ := bind_eq_ok_iff.mp hvs
    obtain ⟨rfl, rfl⟩ := EStateM.Result.ok.inj hcount
    obtain ⟨ws, c₅, hws, hvs⟩ := bind_eq_ok_iff.mp hvs
    obtain ⟨_, c₆, hclose, hvs⟩ := bind_eq_ok_iff.mp hvs
    obtain ⟨rfl, rfl⟩ := pure_eq_ok_iff.mp hvs
    obtain ⟨rfl, closing, hclose⟩ := require_eq_ok hclose
    obtain ⟨rest, hr, hrd, hrm⟩ := items_derive r.expression _ hws
    rw [hfd] at hrd hrm
    refine ⟨.arguments opening first rest closing, ?_, hrd, ?_⟩
    · rw [hopen, hf, hr, hclose]
      simp [Tree.yield]
    · exact Except.bind_eq_ok_iff.mpr ⟨v, hfm, Except.bind_eq_ok_iff.mpr ⟨ws, hrm, rfl⟩⟩

end RulesDerive

/-- **The rules derive their parts,** in however many calls. -/
theorem rulesDerive (hbound : input.bound = .whole bound) (calls : Nat) :
    RulesDerive input bound calls := by
  induction calls with
  -- without a call no rule has a value
  | zero => constructor <;> intros <;> intro c c' v hv <;> cases hv
  | succ calls r =>
    exact {
      expression := r.expression_succ
      additive := r.additive_succ
      multiplicative := r.multiplicative_succ
      unary := r.unary_succ hbound
      exponent := r.exponent_succ hbound
      primary := r.primary_succ hbound
      arguments := r.arguments_succ }

end Parser

end Reckon
