import Reckon.Proofs.Parser.Lockstep
/-!
# Parser — a higher nesting bound

A run under a higher nesting bound goes hand in hand with the run under the
lower one until the lower bound refuses a nested part. So whatever else a
token sequence comes to, derived by the grammar or not, it comes to under
every higher bound as well, and the parser stops at the same cursor
(`parse_of_higher_bound`).
-/

namespace Reckon

namespace Parser

/-- A run that is refused for its nesting, or is short of calls, is excused. -/
def Stop.ofNesting : Stop → Prop
  | error (.nestingExceeded _) | overflow => True
  | error _ => False

/-- **Two nesting bounds are alike** up to what the lower one refuses: all
values are the same, and the run under the higher one is never excused. -/
theorem alike_of_levels (tokens : Array Token) (bindings : Bindings) {lower higher : Quantity}
    (h : lower.floor.toNat ≤ higher.floor.toNat) :
    Alike Stop.ofNesting (fun _ => False) Eq
      ⟨tokens, bindings, lower⟩ ⟨tokens, bindings, higher⟩ :=
  .of_eq rfl h (.inr trivial) trivial fun _ => .inl rfl

/-- Two parsers at one cursor that differ in the bound only: where the one with
the lower bound is not refused, both give the same answer at the same cursor. -/
theorem parse_of_levels {tokens : Array Token} {bindings : Bindings} {lower higher : Quantity}
    {c : Cursor} (hle : lower.floor.toNat ≤ higher.floor.toNat)
    (h : ∀ b, (Parser.mk ⟨tokens, bindings, lower⟩ c).parse.1 ≠ .error (.nestingExceeded b)) :
    (Parser.mk ⟨tokens, bindings, higher⟩ c).parse.1 =
        (Parser.mk ⟨tokens, bindings, lower⟩ c).parse.1 ∧
      (Parser.mk ⟨tokens, bindings, higher⟩ c).parse.2.cursor =
        (Parser.mk ⟨tokens, bindings, lower⟩ c).parse.2.cursor := by
  refine (alike_of_levels tokens bindings hle).parse_eq fun e he => ?_
  cases e with
  | nestingExceeded b => exact h b
  | _ => exact he.elim

/-- **Raising the nesting bound changes nothing but a refusal for it.** What a
token sequence comes to under a bound that does not refuse it, value or error,
it comes to under every higher bound, and the parser is left at the same cursor. -/
theorem parse_of_higher_bound (tokens : List Token) (bindings : Bindings) (lower higher : Nat)
    (hleast : 1 ≤ lower) (hle : lower ≤ higher) (hgreatest : higher ≤ 114) :
    ∃ p p', Parser.new tokens bindings (.whole lower) = .ok p ∧
      Parser.new tokens bindings (.whole higher) = .ok p' ∧
      ((∀ b, p.parse.1 ≠ .error (.nestingExceeded b)) →
        p'.parse.1 = p.parse.1 ∧ p'.parse.2.cursor = p.parse.2.cursor) := by
  have hlower : Parser.new tokens bindings (.whole lower) = .ok (fresh tokens bindings lower) :=
    new_eq_fresh hleast (by omega)
  have hhigher : Parser.new tokens bindings (.whole higher) = .ok (fresh tokens bindings higher) :=
    new_eq_fresh (by omega) hgreatest
  refine ⟨_, _, hlower, hhigher, fun h => parse_of_levels ?_ h⟩
  simpa [Quantity.floor] using hle

/-- The tokens of `-(7)7`, which no tree derives. -/
def signedGroupAndNumber : List Token :=
  [⟨.symbol .operator "-", 0⟩, ⟨.symbol .openParen "(", 1⟩, ⟨.number 7, 2⟩,
    ⟨.symbol .closeParen ")", 3⟩, ⟨.number 7, 4⟩]

/-- A bound of two allows the sign and the group, so the second number is left
over under the greatest bound as well. -/
theorem signedGroupAndNumber_trailing :
    ∃ p, Parser.new signedGroupAndNumber [] (.whole 114) = .ok p ∧
      p.parse.1 = .error .trailingTokens ∧ p.parse.2.cursor = ⟨4, 0⟩ := by
  obtain ⟨p, p', hp, hp', h⟩ :=
    parse_of_higher_bound signedGroupAndNumber [] 2 114 (by decide) (by decide) (by decide)
  obtain rfl : fresh signedGroupAndNumber [] 2 = p := Except.ok.inj hp
  have htrailing : (fresh signedGroupAndNumber [] 2).parse.1 = .error .trailingTokens := rfl
  have hcursor : (fresh signedGroupAndNumber [] 2).parse.2.cursor = ⟨4, 0⟩ := rfl
  obtain ⟨h₁, h₂⟩ := h (by rw [htrailing]; intro b hb; cases hb)
  exact ⟨p', hp', h₁.trans htrailing, h₂.trans hcursor⟩

end Parser

end Reckon
