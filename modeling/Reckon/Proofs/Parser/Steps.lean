import Reckon.Parser
/-!
# Parser — what the steps do

Every step of a parser at a cursor, as an equation: what it looks at, where
it leaves the cursor, and what it stops with. A step reads the tokens
through the token at the cursor, so the tokens that are left
(`Input.rest`) say all that a later step can see. The rules are opened with
these equations and with `bind_apply`, never by unfolding the steps.
-/

namespace Reckon

/-- The operator that a token is, if it is one. -/
def Token.operator? (token : Token) : Option Operator :=
  match token.lexeme with
  | .symbol .operator text => Operator.ofSpelling? text
  | _ => none

namespace Parser

/-- The cursor so many tokens further on. -/
def Cursor.forward (c : Cursor) (count : Nat) : Cursor :=
  { c with index := c.index + count }

/-- The cursor inside one more nested part. -/
def Cursor.inside (c : Cursor) : Cursor :=
  { c with depth := c.depth + 1 }

/-- The cursor outside the nested part it stands in. -/
def Cursor.outside (c : Cursor) : Cursor :=
  { c with depth := c.depth - 1 }

/-- The tokens that are left at a cursor. -/
def Input.rest (input : Input) (c : Cursor) : List Token :=
  input.tokens.toList.drop c.index

variable {α β : Type} {input : Input} {c c' : Cursor}

@[simp] theorem Cursor.forward_index (n : Nat) : (c.forward n).index = c.index + n := rfl

@[simp] theorem Cursor.forward_depth (n : Nat) : (c.forward n).depth = c.depth := rfl

@[simp] theorem Cursor.inside_depth : c.inside.depth = c.depth + 1 := rfl

@[simp] theorem Cursor.outside_depth : c.outside.depth = c.depth - 1 := rfl

@[simp] theorem Cursor.forward_forward (m n : Nat) :
    (c.forward m).forward n = c.forward (m + n) := by
  simp [Cursor.forward, Nat.add_assoc]

/-! ## The tokens that are left -/

/-- The token at a cursor is the first one left. -/
theorem getElem?_index : input.tokens[c.index]? = (input.rest c).head? := by
  simp [Input.rest, List.head?_drop]

/-- Going forward takes tokens off what is left. -/
theorem Input.rest_forward (n : Nat) : input.rest (c.forward n) = (input.rest c).drop n := by
  simp [Input.rest, List.drop_drop]

/-- Past the first part of what is left, the second part is left. -/
theorem Input.rest_forward_length {ts post : List Token} (h : input.rest c = ts ++ post) :
    input.rest (c.forward ts.length) = post := by
  rw [Input.rest_forward, h, List.drop_left]

/-- Past the first token that is left, the others are left. -/
theorem Input.rest_forward_one {token : Token} {post : List Token}
    (h : input.rest c = token :: post) : input.rest (c.forward 1) = post := by
  rw [Input.rest_forward, h, List.drop_succ_cons, List.drop_zero]

/-! ## Steps as equations -/

theorem bind_apply (a : Action α) (f : α → Action β) :
    (a >>= f) c = match a c with
      | .ok v c' => f v c'
      | .error stop c' => .error stop c' := by
  change EStateM.bind a f c = _
  rw [EStateM.bind]
  cases a c <;> rfl

@[simp] theorem pure_apply (v : α) : (pure v : Action α) c = .ok v c := rfl

@[simp] theorem fail_apply (e : Error) : (fail e : Action α) c = .error (.error e) c := rfl

@[simp] theorem value_ok (v : α) : (value (.ok v) : Action α) = pure v := rfl

@[simp] theorem value_error (e : Error) : (value (.error e) : Action α) = fail e := rfl

@[simp] theorem advance_apply : advance c = .ok () (c.forward 1) := rfl

@[simp] theorem peek_apply : peek input c = .ok (input.rest c).head? c := by
  rw [← getElem?_index]
  rfl

@[simp] theorem at?_apply (kind : Symbol) :
    at? input kind c = .ok (((input.rest c).head?.map (·.lexeme.is kind)).getD false) c := by
  rw [at?, bind_apply, peek_apply]
  rfl

@[simp] theorem operator?_apply (precedence : Nat) :
    operator? input precedence c =
      .ok (((input.rest c).head?.bind Token.operator?).filter (·.precedence = precedence)) c := by
  rw [operator?, bind_apply, peek_apply]
  rcases (input.rest c).head? with - | ⟨lexeme, position⟩
  · rfl
  · rcases lexeme with v | ⟨kind, text⟩
    · rfl
    · cases kind <;> rfl

@[simp] theorem require_apply (kind : Symbol) (what : Requirement) :
    require input kind what c =
      if ((input.rest c).head?.map (·.lexeme.is kind)).getD false then .ok () (c.forward 1)
      else .error (.error (.required what (input.rest c).head?)) c := by
  rw [require, bind_apply, peek_apply]
  simp only
  split <;> rfl

@[simp] theorem remaining_apply : remaining input c = .ok (input.rest c).length c := by
  change EStateM.Result.ok (input.tokens.size - c.index) c = _
  simp [Input.rest]

/-- A nested part that is refused for its depth stays counted. -/
theorem nested_of_lt (part : Action α) (h : input.levels < c.depth + 1) :
    nested input part c = .error (.error (.nestingExceeded input.bound)) c.inside := by
  rw [nested, if_pos h]
  rfl

/-- A nested part that is entered is left again, however it ends. -/
theorem nested_of_le (part : Action α) (h : c.depth + 1 ≤ input.levels) :
    nested input part c = match part c.inside with
      | .ok v c' => .ok v c'.outside
      | .error stop c' => .error stop c'.outside := by
  rw [nested, if_neg (Nat.not_lt.mpr h)]
  rfl

end Parser

end Reckon
