import Reckon.Proofs.Grammar.Follow
import Reckon.Proofs.Grammar.Nesting
/-!
# Parser — steps with a known outcome

A step gives an outcome (`Gives`) where it has its value past so many tokens,
or stops with its error. Outcomes compose like the steps do: one after
another, under a gate for a nested part, and along a chain of operands or a
list of items for as long as the next token says so. A run that is short of
calls has no outcome and is left out here; the parser's own runs never are.
-/

namespace Reckon

namespace Parser

variable {α β : Type} {input : Input} {c : Cursor}

/-- **A step gives an outcome** at a cursor: the value past so many tokens, or
the error, unless it is short of calls. -/
def Gives (a : Action α) (c : Cursor) (taken : Nat) (outcome : Except Error α) : Prop :=
  match a c with
  | .ok v c' => outcome = .ok v ∧ c' = c.forward taken
  | .error (.error e) _ => outcome = .error e
  | .error .overflow _ => True

namespace Gives

theorem pure (v : α) : Gives (pure v) c 0 (.ok v) := ⟨rfl, rfl⟩

theorem fail {taken : Nat} (e : Error) : Gives (fail e : Action α) c taken (.error e) := rfl

theorem value (x : Except Error α) : Gives (value x) c 0 x := by
  cases x
  · exact rfl
  · exact ⟨rfl, rfl⟩

/-- One step after another: the second is only taken from a value. -/
theorem bind {a : Action α} {f : α → Action β} {x : Except Error α} {g : α → Except Error β}
    {m n : Nat} (ha : Gives a c m x)
    (hf : ∀ v, x = .ok v → Gives (f v) (c.forward m) n (g v)) :
    Gives (a >>= f) c (m + n) (x >>= g) := by
  rw [Gives, bind_apply]
  rw [Gives] at ha
  -- the outcome says which it is: only a value hands its cursor on
  rcases h : a c with ⟨v, c'⟩ | ⟨e | -, c'⟩
  · rw [h] at ha
    obtain ⟨rfl, rfl⟩ := ha
    have := hf v rfl
    rw [Gives, Cursor.forward_forward] at this
    exact this
  · rw [h] at ha
    obtain rfl := ha
    exact rfl
  · trivial

/-- A first step that moves past one token. -/
theorem past {a : Action α} {f : α → Action β} {v : α} {n : Nat} {outcome : Except Error β}
    (ha : a c = .ok v (c.forward 1)) (hf : Gives (f v) (c.forward 1) n outcome) :
    Gives (a >>= f) c (n + 1) outcome := by
  rw [Gives, bind_apply, ha]
  rw [Gives, Cursor.forward_forward, Nat.add_comm] at hf
  exact hf

/-- A first step that only looks. -/
theorem look {a : Action α} {f : α → Action β} {v : α} {n : Nat} {outcome : Except Error β}
    (ha : a c = .ok v c) (hf : Gives (f v) c n outcome) : Gives (a >>= f) c n outcome := by
  rw [Gives, bind_apply, ha]
  exact hf

/-- A last step that makes something of the value. -/
theorem map {a : Action α} {x : Except Error α} {n : Nat} (ha : Gives a c n x) (f : α → β) :
    Gives (a >>= fun v => Pure.pure (f v)) c n (x >>= fun v => Pure.pure (f v)) :=
  bind (n := 0) ha fun v _ => pure (f v)

/-- A nested part asks the gate before it is entered. -/
theorem nested {a : Action α} {bound n : Nat} {x : Except Error α}
    (hb : input.bound = .whole bound) (ha : Gives a c.inside n x) :
    Gives (nested input a) c n (Grammar.Tree.withinBound bound (c.depth + 1) >>= fun _ => x) := by
  have hl : input.levels = bound := by simp [Input.levels, hb, Quantity.floor]
  rw [Gives]
  rw [Grammar.Tree.withinBound]
  -- the parser and the gate of the tree compare the same two numbers
  rcases Nat.lt_or_ge input.levels (c.depth + 1) with h | h
  · rw [nested_of_lt a h, if_neg (by omega), hb]
    rfl
  · rw [nested_of_le a h, if_pos (by omega)]
    rw [Gives] at ha
    rcases hv : a c.inside with ⟨v, c'⟩ | ⟨e | -, c'⟩
    · rw [hv] at ha
      obtain ⟨rfl, rfl⟩ := ha
      exact ⟨rfl, rfl⟩
    · rw [hv] at ha
      obtain rfl := ha
      exact rfl
    · trivial

/-- A nested part and what is made of its value. -/
theorem nested_bind {a : Action α} {f : α → Action β} {bound m n : Nat} {x : Except Error α}
    {g : α → Except Error β} (hb : input.bound = .whole bound) (ha : Gives a c.inside m x)
    (hf : ∀ v, Gives (f v) (c.forward m) n (g v)) :
    Gives (Parser.nested input a >>= f) c (m + n) (do
      Grammar.Tree.withinBound bound (c.depth + 1)
      let v ← x
      g v) := by
  have := bind (nested hb ha) fun v _ => hf v
  rwa [bind_assoc] at this

end Gives

/-! ## What is seen at the cursor -/

section Seen

open Grammar

variable {p : Part} {post : List Token}

/-- An operator is seen by the rule of its precedence. -/
theorem operator?_seen {op : Operator} {position : Int}
    (h : input.rest c = operatorToken op position :: post) :
    operator? input op.precedence c = .ok (some op) c := by
  rw [operator?_apply, h]
  simp [Option.filter_some]

/-- No operator is seen by the rule of a part that has ended. -/
theorem operator?_ended (h : p.Ends (input.rest c)) :
    operator? input p.level c = .ok none c := by
  rw [operator?_apply]
  cases hr : input.rest c with
  | nil => rfl
  | cons token post =>
    rw [hr, Part.ends_cons, Part.goesOn, Bool.or_eq_false_iff] at h
    cases ho : token.operator? with
    | none => simp [ho]
    | some op =>
      have : op.precedence < p.level := by simpa [ho] using h.1
      simp [ho, Option.filter_some, Nat.ne_of_lt this]

/-- A mark is seen as what it is. -/
theorem at?_mark {kind kind' : Symbol} {mark : Mark}
    (h : input.rest c = mark.token kind :: post) :
    at? input kind' c = .ok (decide (kind = kind')) c := by
  rw [at?_apply, h]
  simp

/-- No comma is seen where a list of items has ended. -/
theorem at?_ended (h : Part.items.Ends (input.rest c)) : at? input .comma c = .ok false c := by
  rw [at?_apply]
  cases hr : input.rest c with
  | nil => rfl
  | cons token post =>
    rw [hr, Part.ends_cons, Part.goesOn, Bool.or_eq_false_iff] at h
    simpa using h.2

/-- No closing parenthesis is seen where an expression stands. -/
theorem at?_expression {t : Tree .expression} (h : input.rest c = t.yield ++ post) :
    at? input .closeParen c = .ok false c := by
  obtain ⟨token, ht, hk⟩ := operand_head t rfl post
  rw [Option.mem_def] at ht
  rw [at?_apply, h, ht]
  simpa using hk

/-- A mark that is required and there is passed. -/
theorem require_mark {kind : Symbol} {mark : Mark} {what : Requirement}
    (h : input.rest c = mark.token kind :: post) :
    require input kind what c = .ok () (c.forward 1) := by
  rw [require_apply, h]
  simp

end Seen

/-! ## Repetitions -/

/-- As many repetitions may be tried as tokens are left, which are enough for any that
stand there. -/
theorem Gives.remaining {f : Nat → Action α} {outcome : Except Error α} {n : Nat}
    {repeated post : List Token} (h : input.rest c = repeated ++ post)
    (hf : ∀ count, repeated.length ≤ count → Gives (f count) c n outcome) :
    Gives (Parser.remaining input >>= f) c n outcome := by
  refine look remaining_apply (hf _ ?_)
  rw [h, List.length_append]
  exact Nat.le_add_right _ _

/-- A chain ends where no operator of its precedence is seen. -/
theorem Gives.chain_end {operand : Action Float} {precedence : Nat}
    (h : operator? input precedence c = .ok none c) (count : Nat) (left : Float) :
    Gives (Parser.chain input precedence operand count left) c 0 (.ok left) := by
  cases count with
  | zero => exact pure left
  | succ count => exact look h (pure left)

/-- A list of items ends where no comma is seen. -/
theorem Gives.items_end {item : Action Float} (h : at? input .comma c = .ok false c)
    (count : Nat) : Gives (Parser.items input item count) c 0 (.ok []) := by
  cases count with
  | zero => exact pure []
  | succ count => exact look h (pure [])

/-- A chain goes on with an operator of its precedence: the operand after it,
the operation, and the rest of the chain from there. -/
theorem Gives.chain {operand : Action Float} {op : Operator} {m n count : Nat} {left : Float}
    {x : Except Error Float} {g : Float → Except Error Float}
    (h : operator? input op.precedence c = .ok (some op) c)
    (hx : Gives operand (c.forward 1) m x)
    (hg : ∀ next, Gives (chain input op.precedence operand count next) (c.forward (1 + m)) n
      (g next)) :
    Gives (Parser.chain input op.precedence operand (count + 1) left) c (m + n + 1) (do
      let right ← x
      g (← operate op left right)) := by
  rw [Parser.chain]
  refine Gives.look h (Gives.past advance_apply (Gives.bind hx fun right _ => ?_))
  -- past the operator and its operand
  rw [Cursor.forward_forward]
  have := Gives.bind (c := c.forward (1 + m)) (Gives.value (operate op left right))
    fun next _ => hg next
  rwa [Nat.zero_add] at this

/-- A list of items goes on with a comma: the item after it, and the rest. -/
theorem Gives.items {item : Action Float} {m n count : Nat} {x : Except Error Float}
    {xs : Except Error (List Float)} (h : at? input .comma c = .ok true c)
    (hx : Gives item (c.forward 1) m x)
    (hxs : Gives (items input item count) (c.forward (1 + m)) n xs) :
    Gives (Parser.items input item (count + 1)) c (m + n + 1) (do
      let first ← x
      let rest ← xs
      return first :: rest) := by
  rw [Parser.items]
  refine Gives.look h (Gives.past advance_apply (Gives.bind hx fun first _ => ?_))
  rw [Cursor.forward_forward]
  exact Gives.map hxs (first :: ·)

end Parser

end Reckon
