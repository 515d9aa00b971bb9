import Reckon.Proofs.Grammar.Unfinished
/-!
# Grammar — what is read before a syntax error

A rule that stops with a syntax error has read the beginning of some tree of
its part, and the error stands at the next token (`rulesPinpoint`). What is left
unfinished can always be completed (`Unfinished.begins`): each part completes
the one that was begun last and leaves out, or makes up, what would have come
after it.
-/

namespace Reckon

namespace Grammar

/-- A part may begin with a token sequence where a tree of the part does. -/
def Part.Begins (p : Part) (ts : List Token) : Prop :=
  ∃ (t : Tree p) (post : List Token), t.yield = ts ++ post

variable {p q : Part} {read : List Token} {e : Error}

/-- What begins a part begins a part around it, after what comes before. -/
theorem Part.Begins.after (h : p.Begins read) (before : List Token)
    (hgrow : ∀ t : Tree p, ∃ (u : Tree q) (post : List Token),
      u.yield = before ++ t.yield ++ post) : q.Begins (before ++ read) := by
  obtain ⟨t, post, ht⟩ := h
  obtain ⟨u, post', hu⟩ := hgrow t
  refine ⟨u, post ++ post', ?_⟩
  rw [hu, ht]
  simp only [List.append_assoc]

/-- **What is left unfinished can be completed.** -/
theorem Unfinished.begins (h : Unfinished p read e) : p.Begins read := by
  induction h with
  | expression _ ih => exact ih.after [] fun t => ⟨.expression t, [], by simp [Tree.yield]⟩
  | additive _ ih => exact ih.after [] fun t => ⟨.additive t .lastSum, [], by simp [Tree.yield]⟩
  | sums first _ ih =>
    exact ih.after first.yield fun t => ⟨.additive first t, [], by simp [Tree.yield]⟩
  | sum op level position _ ih =>
    exact ih.after [_] fun t => ⟨.sum op level position t .lastSum, [], by simp [Tree.yield]⟩
  | laterSum op level position operand _ ih =>
    exact ih.after (_ :: operand.yield) fun t =>
      ⟨.sum op level position operand t, [], by simp [Tree.yield]⟩
  | multiplicative _ ih =>
    exact ih.after [] fun t => ⟨.multiplicative t .lastProduct, [], by simp [Tree.yield]⟩
  | products first _ ih =>
    exact ih.after first.yield fun t => ⟨.multiplicative first t, [], by simp [Tree.yield]⟩
  | product op level position _ ih =>
    exact ih.after [_] fun t =>
      ⟨.product op level position t .lastProduct, [], by simp [Tree.yield]⟩
  | laterProduct op level position operand _ ih =>
    exact ih.after (_ :: operand.yield) fun t =>
      ⟨.product op level position operand t, [], by simp [Tree.yield]⟩
  | negation position _ ih =>
    exact ih.after [_] fun t => ⟨.negation position t, [], by simp [Tree.yield]⟩
  | unsigned _ ih => exact ih.after [] fun t => ⟨.unsigned t, [], by simp [Tree.yield]⟩
  | base _ ih => exact ih.after [] fun t => ⟨.single t, [], by simp [Tree.yield]⟩
  | power base op level position _ ih =>
    have hgrow := ih.after (q := .exponent) (base.yield ++ [operatorToken op position]) fun t =>
      ⟨.power base op level position t, [], by simp [Tree.yield]⟩
    rwa [List.append_assoc] at hgrow
  | missing | unexpected => exact ⟨.number 0 0, _, rfl⟩
  | callStart => exact ⟨.noArguments ⟨"(", 0⟩ ⟨")", 0⟩, _, rfl⟩
  | call name position _ ih =>
    exact ih.after [_] fun t => ⟨.call name position t, [], by simp [Tree.yield]⟩
  | group opening _ ih =>
    exact ih.after [_] fun t => ⟨.group opening t ⟨")", 0⟩, [_], by simp [Tree.yield]; rfl⟩
  | groupEnd opening inside => exact ⟨.group opening inside ⟨")", 0⟩, _, rfl⟩
  | arguments opening _ ih =>
    exact ih.after [_] fun t =>
      ⟨.arguments opening t .lastItem ⟨")", 0⟩, [_], by simp [Tree.yield]; rfl⟩
  | items opening first _ ih =>
    exact ih.after (_ :: first.yield) fun t =>
      ⟨.arguments opening first t ⟨")", 0⟩, [_], by simp [Tree.yield]; rfl⟩
  | callEnd opening first rest => exact ⟨.arguments opening first rest ⟨")", 0⟩, _, rfl⟩
  | item comma _ ih =>
    exact ih.after [_] fun t => ⟨.item comma t .lastItem, [], by simp [Tree.yield]⟩
  | laterItem comma argument _ ih =>
    exact ih.after (_ :: argument.yield) fun t =>
      ⟨.item comma argument t, [], by simp [Tree.yield]⟩

end Grammar

namespace Parser

open Grammar

variable {α : Type} {input : Input} {p : Part} {c c' : Cursor} {e : Error} {bound : Nat}

/-- **An error stands right after the beginning of a part:** between the two
cursors is what the part may begin with, and the next token is the one that
the error is about. -/
def Stands (input : Input) (p : Part) (c c' : Cursor) (e : Error) : Prop :=
  ∃ read, p.Begins read ∧ input.rest c = read ++ input.rest c' ∧ e.IsAt (input.rest c').head?

/-- **A step pinpoints its part:** where it stops with a syntax error, the error
stands right after the beginning of the part. -/
def Pinpoints (input : Input) (p : Part) (a : Action α) : Prop :=
  ∀ {c c' : Cursor} {e : Error}, a c = .error (.error e) c' → e.isSyntax → Stands input p c c' e

/-- The rules pinpoint their parts in so many calls. -/
structure RulesPinpoint (input : Input) (calls : Nat) : Prop where
  expression : Pinpoints input .expression (expression input calls)
  additive : Pinpoints input .additive (additive input calls)
  multiplicative : Pinpoints input .multiplicative (multiplicative input calls)
  unary : Pinpoints input .unary (unary input calls)
  exponent : Pinpoints input .exponent (exponent input calls)
  primary : Pinpoints input .primary (primary input calls)
  arguments (name : String) : Pinpoints input .arguments (arguments input name calls)

/-- An error that leaves a part unfinished stands right after the beginning of it. -/
theorem Leaves.stands (h : Leaves input p c c' e) : Stands input p c c' e := by
  obtain ⟨read, hread, hrest, hat⟩ := h
  exact ⟨read, hread.begins, hrest, hat⟩

/-- **The rules pinpoint their parts,** in however many calls. -/
theorem rulesPinpoint (hbound : input.bound = .whole bound) (calls : Nat) :
    RulesPinpoint input calls := by
  have r := rulesLeave hbound calls
  exact {
    expression := fun he hs => (r.expression he hs).stands
    additive := fun he hs => (r.additive he hs).stands
    multiplicative := fun he hs => (r.multiplicative he hs).stands
    unary := fun he hs => (r.unary he hs).stands
    exponent := fun he hs => (r.exponent he hs).stands
    primary := fun he hs => (r.primary he hs).stands
    arguments := fun name _ _ _ he hs => (r.arguments name he hs).stands }

end Parser

end Reckon
