import Reckon.Proofs.Parser.Lockstep
/-!
# Parser — more bindings

A run with values for more names goes hand in hand with the run with fewer
until that one comes upon a name without a value. So whatever else a token
sequence comes to, it comes to with more bindings as well
(`outcome_of_more_bindings`).
-/

namespace Reckon

namespace Parser

/-- A run that stops for a name without a value, or is short of calls, is excused. -/
def Stop.ofUnbound : Stop → Prop
  | error (.unboundVariable _) | overflow => True
  | error _ => False

variable {bindings bindings' : Bindings}

/-- **Bindings that keep every value are alike** up to the names that have none in
the first. -/
theorem alike_of_bindings (tokens : Array Token) (bound : Quantity)
    (h : ∀ name v, bindings.lookup name = some v → bindings'.lookup name = some v) :
    Alike Stop.ofUnbound (fun _ => False) Eq ⟨tokens, bindings, bound⟩ ⟨tokens, bindings', bound⟩ :=
  .of_eq rfl (Nat.le_refl _) (.inl rfl) trivial fun name => by
    cases hl : bindings.lookup name with
    | none => exact .inr ⟨rfl, trivial⟩
    | some v => exact .inl (h name v hl).symm

/-- **More bindings change nothing but a failure for a name without a value.** -/
theorem outcome_of_more_bindings (tokens : List Token) (bound : Value)
    (h : ∀ name v, bindings.lookup name = some v → bindings'.lookup name = some v)
    (hnames : ∀ name, outcome tokens bindings bound ≠ .error (.unboundVariable name)) :
    outcome tokens bindings' bound = outcome tokens bindings bound := by
  rcases new_cases tokens bound with ⟨e, hnew⟩ | ⟨q, hnew⟩
  · rw [outcome, outcome, hnew, hnew]
  · have hparse (b : Bindings) :
        outcome tokens b bound = (Parser.mk ⟨tokens.toArray, b, q⟩ ⟨0, 0⟩).parse.1 := by
      rw [outcome, hnew]
      rfl
    rw [hparse, hparse]
    refine ((alike_of_bindings tokens.toArray q h).parse_eq fun e he => ?_).1
    rw [← hparse]
    cases e with
    | unboundVariable name => exact hnames name
    | _ => exact he.elim

end Parser

end Reckon
