import Reckon.Proofs.Parser.Failure
import Reckon.Proofs.Parser.Inherited
import Reckon.Proofs.Parser.Whole
/-!
# Parser — what a run may stop for

Every stop has a reason in what the parser was given: a token that it found or
missed, a name among the tokens that stands for nothing, the bound, or the
values that an operation or a function was applied to (`Reason`). No rule stops
for anything else (`rulesStopFor`), so what a whole sequence comes to is its
value, one of these, or one of two errors about the sequence itself
(`parse_eq_error`).
-/

namespace Reckon

namespace Parser

variable {α β : Type} {input : Input} {c : Cursor}

/-- **A step stops for a reason,** if it stops. -/
def StopsFor (input : Input) (a : Action α) (c : Cursor) : Prop :=
  ∀ stop c', a c = .error stop c' → Reason input stop

namespace StopsFor

/-- One step after another. -/
theorem bind {a : Action α} {f : α → Action β} (ha : StopsFor input a c)
    (hf : ∀ v c', StopsFor input (f v) c') : StopsFor input (a >>= f) c := by
  intro stop c' h
  rcases bind_eq_error_iff.mp h with h | ⟨v, c₁, -, h⟩
  · exact ha stop c' h
  · exact hf v c₁ stop c' h

theorem nested {a : Action α} (ha : ∀ c, StopsFor input a c) :
    StopsFor input (nested input a) c := by
  intro stop c' h
  rcases nested_eq_error h with rfl | ⟨c₁, h, -⟩
  · exact .nesting
  · exact ha c.inside stop c₁ h

theorem inherited : Inherited input fun _ => StopsFor input where
  pure v c := by rintro stop c' ⟨⟩
  fail c hreason _ := by
    rintro _ _ ⟨⟩
    exact hreason
  overflow c := by
    rintro _ _ ⟨⟩
    exact .overflow
  look ha hf := by
    intro stop c' h
    rw [bind_apply, ha] at h
    exact hf stop c' h
  past _ hf := fun stop c' h => hf _ stop c' (advance_bind_eq_error h)
  bind := bind
  nested _ := nested

end StopsFor

/-- **The rules stop for no other reason,** in however many calls. -/
theorem rulesStopFor (input : Input) (calls : Nat) :
    RulesInherit input (fun _ => StopsFor input) calls :=
  rulesInherit StopsFor.inherited calls

/-- **What a whole sequence without a value comes to:** parentheses that do not
balance, tokens that are left over, or what a rule stops for. -/
theorem parse_eq_error {p : Parser} {e : Error} (h : p.parse.1 = .error e) :
    e = .unmatchedParentheses ∨ e = .trailingTokens ∨ Reason p.input (.error e) := by
  have hcalls := whole_not_overflow p.input p.cursor
  rw [parse_eq_run, run] at h
  rcases hw : whole p.input p.cursor with ⟨w, c⟩ | ⟨e' | -, c⟩
  · rw [hw] at h
    cases h
  · rw [hw] at h
    obtain rfl : e' = e := Except.error.inj h
    rcases bind_eq_error_iff.mp hw with hcheck | ⟨_, c₁, -, hw⟩
    · obtain ⟨e₁, he₁, hstop, -⟩ := value_eq_error_iff.mp hcheck
      obtain rfl : e' = e₁ := Stop.error.inj hstop
      rw [checkParentheses] at he₁
      split at he₁ <;> cases he₁
      exact .inl rfl
    rcases bind_eq_error_iff.mp hw with hrule | ⟨v, c₂, -, hw⟩
    · exact .inr (.inr ((rulesStopFor p.input _).expression c₁ _ _ hrule))
    rcases bind_eq_error_iff.mp hw with hleft | ⟨left, c₃, -, hw⟩
    · rw [remaining_apply] at hleft
      cases hleft
    · split at hw <;> cases hw
      exact .inr (.inl rfl)
  · exact absurd hw (hcalls c)

/-- A whole sequence that is refused for its nesting is refused for the bound of the parser. -/
theorem parse_eq_nestingExceeded {p : Parser} {bound : Quantity}
    (h : p.parse.1 = .error (.nestingExceeded bound)) : bound = p.input.bound := by
  rcases parse_eq_error h with h | h | h
  · cases h
  · cases h
  · cases h with
    | nesting => rfl
    | operation h => cases ofValue_operate _ _ _ _ h
    | constantName _ h => cases ofValue_constantValue _ _ h
    | functionName _ h => cases ofValue_applyNamed _ _ _ h

end Parser

end Reckon
