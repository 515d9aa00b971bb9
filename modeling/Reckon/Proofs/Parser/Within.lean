import Reckon.Proofs.Parser.Inherited
import Reckon.Proofs.Parser.Lookahead
/-!
# Parser — the cursor stays within the tokens

A step only moves past a token that it has seen. So a run that starts at a
token or at the end leaves the cursor at a token or at the end, whether it
has a value or stops (`rulesWithin`).
-/

namespace Reckon

namespace Parser

variable {α β : Type} {input : Input} {c : Cursor}

/-- **A step stays within the tokens.** -/
def Within (input : Input) (a : Action α) (c : Cursor) : Prop :=
  c.index ≤ input.tokens.size → (endOf (a c)).index ≤ input.tokens.size

namespace Within

/-- One step after another. -/
theorem bind {a : Action α} {f : α → Action β} (ha : Within input a c)
    (hf : ∀ v c', Within input (f v) c') : Within input (a >>= f) c := by
  intro hc
  have hend := ha hc
  rw [bind_apply]
  rcases h : a c with ⟨v, c'⟩ | ⟨stop, c'⟩
  · rw [h] at hend
    exact hf v c' hend
  · rw [h] at hend
    exact hend

/-- Moving past a token that is there. -/
theorem past {f : Unit → Action β} {token : Token} (hseen : (input.rest c).head? = some token)
    (hf : ∀ c', Within input (f ()) c') : Within input (advance >>= f) c := by
  intro _
  refine hf (c.forward 1) ?_
  have hlength : (input.rest c).length = input.tokens.size - c.index := length_rest
  rw [rest_eq_cons hseen, List.length_cons] at hlength
  rw [Cursor.forward_index]
  omega

/-- Entering a nested part and leaving it do not move the cursor along. -/
theorem nested {a : Action α} (ha : ∀ c, Within input a c) :
    Within input (nested input a) c := by
  intro hc
  rcases Nat.lt_or_ge input.levels (c.depth + 1) with hl | hl
  · rw [nested_of_lt a hl]
    exact hc
  · rw [endOf_nested_index hl]
    exact ha c.inside hc

theorem inherited : Inherited input fun _ => Within input where
  pure _ _ := id
  fail _ _ _ := id
  overflow _ := id
  look ha hf := by
    rw [Within, bind_apply, ha]
    exact hf
  past := past
  bind := bind
  nested _ := nested

end Within

/-- **The rules stay within the tokens,** in however many calls. -/
theorem rulesWithin (input : Input) (calls : Nat) :
    RulesInherit input (fun _ => Within input) calls :=
  rulesInherit Within.inherited calls

end Parser

end Reckon
