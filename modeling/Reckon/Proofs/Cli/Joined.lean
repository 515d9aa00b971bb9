import Reckon.Cli.Command
import Reckon.Proofs.Token.Parted
/-!
# Command line — the arguments of an expression

An expression may be given in many arguments, which are joined with spaces. No
token goes on over a blank, so what is evaluated has the tokens of each argument,
one after the other (`tokenize_parted`): an argument is never read together with the
next one.
-/

namespace Reckon

namespace Cli

/-- Arguments that are no options are kept, and so is everything after `--`. -/
theorem divide_plain {known : List Switch} {args : List String}
    (h : ∀ arg ∈ args.takeWhile (· ≠ "--"), read known arg = .plain) :
    divide known true args = some ⟨[], args.erase "--"⟩ := by
  induction args with
  | nil => rfl
  | cons arg rest ih =>
    by_cases hend : arg = "--"
    · subst hend
      rw [List.erase_cons_head]
      rfl
    · rw [List.takeWhile_cons_of_pos (by simp [hend])] at h
      obtain ⟨harg, hrest⟩ := List.forall_mem_cons.mp h
      rw [divide, harg]
      simp only [if_true, ih hrest, Option.map_some]
      rw [List.erase_cons_tail (by simp [hend])]
      rfl

/-- So an expression is made of all of them. -/
theorem read?_eval {args : List String} (hne : args.erase "--" ≠ [])
    (h : ∀ arg ∈ args.takeWhile (· ≠ "--"), read [] arg = .plain) :
    CommandName.eval.read? args = some (.eval (" ".intercalate (args.erase "--"))) := by
  rw [CommandName.read?, CommandName.switches, divide_plain h]
  exact if_neg hne

end Cli

/-- **Blanks part a text into texts of its own.** With blanks between them, of two texts
the first fails as it does by itself; if it does not fail or is blank, the second
does, further on; else the tokens are those of the first and then those of the second,
further on, where there are any. So an expression on a command line has the tokens of
its arguments, one after the other. -/
theorem tokenize_parted (declared : List String) (a w b : String) (hne : w ≠ "")
    (hw : ∀ c ∈ w.toList, Text.isBlank c = true) :
    ((∀ e, e ≠ .emptyExpression → tokenize declared a = .error e →
        tokenize declared (a ++ w ++ b) = .error e) ∧
      (∀ ts e, Scan.tokensOrNone declared a = .ok ts → e ≠ .emptyExpression →
        tokenize declared b = .error e →
        tokenize declared (a ++ w ++ b) = .error (e.moved (a.length + w.length))) ∧
      ∀ ts us, Scan.tokensOrNone declared a = .ok ts → Scan.tokensOrNone declared b = .ok us →
        tokenize declared (a ++ w ++ b) =
          Scan.someToken (ts ++ us.map (Token.moved (a.length + w.length)))) ∧
    ∀ args : List String, args.erase "--" ≠ [] →
      (∀ arg ∈ args.takeWhile (· ≠ "--"), Cli.read [] arg = .plain) →
      ∃ text, Cli.CommandName.eval.read? args = some (.eval text) ∧
        tokenize declared text = (do
          let ts ← Scan.joined declared (args.erase "--")
          Scan.someToken ts) := by
  refine ⟨Scan.tokenize_append hne hw, fun args hargs hplain => ?_⟩
  refine ⟨_, Cli.read?_eval hargs hplain, ?_⟩
  rw [Scan.tokenize_eq, Scan.tokens_intercalate]

/-- So an exponent that blanks part from its letter is none, a dollar sign fails at its
place behind them, and two arguments `2*` and `*3` are no power. -/
theorem tokenize_parted_exponent :
    tokenize [] ("2e" ++ " \t" ++ "-3 $") = .error (.invalidCharacter '$' 7) ∧
      ∃ text, Cli.CommandName.eval.read? ["2*", "--", "*3"] = some (.eval text) ∧
        tokenize [] text = .ok [⟨.number 2, 0⟩, ⟨.symbol .operator "*", 1⟩,
          ⟨.symbol .operator "*", 3⟩, ⟨.number 3, 4⟩] := by
  have hblank : " \t".toList.all Text.isBlank = true := rfl
  obtain ⟨⟨-, h, -⟩, hargs⟩ :=
    tokenize_parted [] "2e" " \t" "-3 $" (by decide) (List.all_eq_true.mp hblank)
  refine ⟨h [⟨.number 2, 0⟩, ⟨.symbol .constantName "e", 1⟩] (.invalidCharacter '$' 3) rfl
    (by decide) rfl, ?_⟩
  refine hargs ["2*", "--", "*3"] (by decide) fun arg harg => ?_
  have hplain : ["2*", "--", "*3"].takeWhile (· ≠ "--") = ["2*"] := by decide
  rw [hplain] at harg
  obtain rfl := List.mem_singleton.mp harg
  rfl

end Reckon
