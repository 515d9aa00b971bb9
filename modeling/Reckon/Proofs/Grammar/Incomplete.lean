import Reckon.Proofs.Decimal.Spelling
import Reckon.Proofs.Grammar.Viable
/-!
# Grammar — where the tokens end too early

The parentheses of a token sequence are checked before it is read, so a parser that
stops at the end has none open: what is left unfinished inside of a group or a call
has an open parenthesis (`balancedFrom_of_begins`), and a sequence with one does not
balance. So only two parts can be left unfinished at the end of a sequence that
balances: an operand, after an operator or where there is no token at all, and a
call of which there is only the name (`Unfinished.mayFollow`).
-/

namespace Reckon

/-- **What may stand last** where an error says that the tokens end too early, while no
parenthesis is open. -/
def Error.MayFollow (last : Option Token) : Error → Prop
  | missingOperand => ∀ token ∈ last, token.lexeme.is .operator = true
  | required (.callStart _) _ => ∃ token ∈ last, token.lexeme.is .functionName = true
  | required _ _ => False
  | _ => True

/-! ## What an error says of the end -/

namespace Error

/-- A text that ends with a position does not say that the expression ends. -/
theorem not_endsWith_of_position (before : String) (position : Int) :
    ¬ "got end of expression".toList <:+ (before ++ toString position).toList := by
  rintro ⟨start, hstart⟩
  obtain ⟨digits, c, hdigits, hc⟩ := Decimal.exists_toString_eq_concat position
  have hlast := congrArg List.getLast? hstart
  rw [String.toList_append, hdigits, ← List.append_assoc, List.getLast?_concat] at hlast
  have hletter : (start ++ "got end of expression".toList).getLast? = some 'n' := by
    rw [List.getLast?_append]
    rfl
  obtain rfl := Option.some.inj (hletter.symm.trans hlast)
  cases hc

/-- **An error about a token that is missing says that the expression ends** exactly if no
other token stands there. -/
theorem endsWith_message_iff {e : Error} (h : e.isUnexpected) :
    "got end of expression".toList <:+ e.message.toList ↔ ∃ what, e = .required what none := by
  cases e with
  | unexpected token =>
    exact iff_of_false (not_endsWith_of_position _ token.position) nofun
  | required what found =>
    cases found with
    | none =>
      have hend : ", got end of expression" = ", " ++ "got end of expression" := rfl
      have hmessage : (required what none).message =
          "Expected " ++ what.phrase ++ ", got end of expression" := rfl
      refine iff_of_true ?_ ⟨what, rfl⟩
      rw [hmessage, hend, ← String.append_assoc, String.toList_append]
      exact List.suffix_append _ _
    | some token =>
      exact iff_of_false (not_endsWith_of_position _ token.position) nofun
  | _ => cases h

/-- Where a call has to start, it is the opening parenthesis that is missing. -/
theorem message_callStart (name : String) :
    (required (.callStart name) none).message.toList[10]? = some '(' := by
  change ("Expected " ++ ("'(' after function " ++ name) ++
    ", got end of expression").toList[10]? = _
  simp only [String.toList_append]
  rfl

end Error

namespace Grammar

open Reckon.Parser

variable {p : Part} {read ts : List Token} {e : Error}

/-! ## Parentheses that are open -/

theorem balancedFrom_cons (opened : Nat) (token : Token) (ts : List Token) :
    balancedFrom opened (token :: ts) =
      if token.lexeme.is .openParen then balancedFrom (opened + 1) ts
      else if token.lexeme.is .closeParen then
        match opened with
        | 0 => false
        | opened + 1 => balancedFrom opened ts
      else balancedFrom opened ts := by
  cases opened <;> rfl

/-- More parentheses are open at the end of what begins a sequence that balances, where
more were open before it. -/
theorem balancedFrom_of_append {post : List Token} (more : Nat) : ∀ opened,
    balancedFrom opened (read ++ post) = true →
      balancedFrom (opened + (more + 1)) read = false := by
  induction read with
  | nil => exact fun opened _ => decide_eq_false (Nat.succ_ne_zero (opened + more))
  | cons token read ih =>
    intro opened hb
    rw [List.cons_append, balancedFrom_cons] at hb
    rw [balancedFrom_cons]
    split at hb
    · next hopen =>
      rw [if_pos hopen, Nat.add_right_comm]
      exact ih (opened + 1) hb
    next hopen =>
    rw [if_neg hopen]
    split at hb
    · next hclose =>
      rw [if_pos hclose]
      cases opened with
      | zero => cases hb
      | succ opened =>
        rw [Nat.add_right_comm]
        exact ih opened hb
    · next hclose =>
      rw [if_neg hclose]
      exact ih opened hb

/-- **What a part may begin with leaves the parentheses open** that are open before it. -/
theorem balancedFrom_of_begins (h : p.Begins read) (more : Nat) :
    balancedFrom (more + 1) read = false := by
  obtain ⟨t, post, ht⟩ := h
  have hwhole : balancedFrom 0 (read ++ post) = true := by
    rw [← ht, ← List.append_nil t.yield, balancedFrom_yield]
    rfl
  have hread := balancedFrom_of_append more 0 hwhole
  rwa [Nat.zero_add] at hread

theorem balanced_openParen (opening : Mark) (read : List Token) :
    balanced (opening.token .openParen :: read) = balancedFrom 1 read := by
  simp [balanced, balancedFrom]

/-- A token that is no parenthesis leaves the balance. -/
theorem balanced_cons {token : Token} (hopen : token.lexeme.is .openParen = false)
    (hclose : token.lexeme.is .closeParen = false) :
    balanced (token :: read) = balanced read := by
  simp [balanced, balancedFrom, hopen, hclose]

theorem balanced_operator (op : Operator) (position : Int) (read : List Token) :
    balanced (operatorToken op position :: read) = balanced read :=
  balanced_cons (operatorToken_is op position _) (operatorToken_is op position _)

/-! ## What stands last -/

theorem mayFollow_append (h : e.MayFollow read.getLast?) (hne : read ≠ []) (before : List Token) :
    e.MayFollow (before ++ read).getLast? := by
  rw [List.getLast?_eq_some_getLast hne] at h
  rwa [List.getLast?_append, List.getLast?_eq_some_getLast hne]

theorem mayFollow_operator (h : e.MayFollow read.getLast?) (op : Operator) (position : Int) :
    e.MayFollow (operatorToken op position :: read).getLast? := by
  cases read with
  | cons token read => exact mayFollow_append h (List.cons_ne_nil token read) [_]
  | nil =>
    -- if anything is missing here, it is an operand
    cases e with
    | missingOperand =>
      rintro token ⟨⟩
      rfl
    | required what found => cases what <;> simp [Error.MayFollow] at h
    | _ => trivial

/-- Of a call that is left unfinished with no parenthesis open there is only the name. -/
theorem Unfinished.arguments_cases (h : Unfinished .arguments read e)
    (hb : balanced read = true) :
    read = [] ∧ ∃ name found, e = .required (.callStart name) found := by
  cases h with
  | callStart name found => exact ⟨rfl, name, found, rfl⟩
  | arguments opening h =>
    rw [balanced_openParen, balancedFrom_of_begins h.begins] at hb
    cases hb
  | items opening first h =>
    rw [List.cons_append, balanced_openParen, balancedFrom_yield,
      balancedFrom_of_begins h.begins] at hb
    cases hb
  | callEnd opening first rest found =>
    rw [List.cons_append, balanced_openParen, balancedFrom_yield, ← List.append_nil rest.yield,
      balancedFrom_yield] at hb
    cases hb

theorem Unfinished.sums_ne_nil (h : Unfinished .sums read e) : read ≠ [] := by
  cases h <;> exact List.cons_ne_nil _ _

theorem Unfinished.products_ne_nil (h : Unfinished .products read e) : read ≠ [] := by
  cases h <;> exact List.cons_ne_nil _ _

/-- **What is left unfinished while no parenthesis is open** ends with an operator or with
the name of a function, or nothing of it has been read. -/
theorem Unfinished.mayFollow (h : Unfinished p read e) : p ≠ .arguments → p ≠ .items →
    balanced read = true → e.MayFollow read.getLast? := by
  -- whole parts before the one that was begun last balance by themselves
  induction h with
  | expression _ ih | additive _ ih | multiplicative _ ih | unsigned _ ih | base _ ih =>
    exact fun _ _ => ih nofun nofun
  | sums first h ih =>
    intro _ _ hb
    rw [balanced, balancedFrom_yield] at hb
    exact mayFollow_append (ih nofun nofun hb) h.sums_ne_nil first.yield
  | products first h ih =>
    intro _ _ hb
    rw [balanced, balancedFrom_yield] at hb
    exact mayFollow_append (ih nofun nofun hb) h.products_ne_nil first.yield
  | sum op level position _ ih | product op level position _ ih =>
    intro _ _ hb
    rw [balanced_operator] at hb
    exact mayFollow_operator (ih nofun nofun hb) op position
  | laterSum op level position operand h ih =>
    intro _ _ hb
    rw [List.cons_append, balanced_operator, balanced, balancedFrom_yield] at hb
    exact mayFollow_append (ih nofun nofun hb) h.sums_ne_nil (_ :: operand.yield)
  | laterProduct op level position operand h ih =>
    intro _ _ hb
    rw [List.cons_append, balanced_operator, balanced, balancedFrom_yield] at hb
    exact mayFollow_append (ih nofun nofun hb) h.products_ne_nil (_ :: operand.yield)
  | negation position _ ih =>
    intro _ _ hb
    rw [balanced_operator] at hb
    exact mayFollow_operator (ih nofun nofun hb) .minus position
  | power base op level position _ ih =>
    intro _ _ hb
    rw [balanced, balancedFrom_yield, ← balanced, balanced_operator] at hb
    exact mayFollow_append (mayFollow_operator (ih nofun nofun hb) op position)
      (List.cons_ne_nil _ _) base.yield
  | missing => rintro - - - token ⟨⟩
  | unexpected => exact fun _ _ _ => trivial
  | call name position h _ =>
    intro _ _ hb
    rw [balanced_cons rfl rfl] at hb
    obtain ⟨rfl, name, found, rfl⟩ := h.arguments_cases hb
    exact ⟨_, rfl, rfl⟩
  | group opening h _ =>
    intro _ _ hb
    rw [balanced_openParen, balancedFrom_of_begins h.begins] at hb
    cases hb
  | groupEnd opening inside found =>
    intro _ _ hb
    rw [balanced_openParen, ← List.append_nil inside.yield, balancedFrom_yield] at hb
    cases hb
  | callStart | arguments | items | callEnd => exact fun h => absurd rfl h
  | item | laterItem => exact fun _ h => absurd rfl h

/-! ## Whole sequences -/

variable {bindings : Bindings} {bound : Nat}

/-- Where a parser stops for anything else, the parentheses balance. -/
theorem balanced_of_parse {parser : Parser} (h : parser.parse.1 = .error e)
    (he : e ≠ .unmatchedParentheses) : balanced parser.input.tokens.toList = true := by
  refine Decidable.byContradiction fun hb => he ?_
  rw [Parser.parse, checkParentheses, if_neg hb] at h
  exact (Except.error.inj h).symm

/-- An error stands at one token, or at the end. -/
theorem isAt_unique {next next' : Option Token} (h : e.IsAt next) (h' : e.IsAt next') :
    next = next' := by
  cases e with
  | missingOperand | unexpected | required => exact h.trans h'.symm
  | _ => exact h.elim

/-- **A parser that stops at the end** has read an operator last, or the name of a
function, or nothing. -/
theorem mayFollow_of_parse (h : (fresh ts bindings bound).parse.1 = .error e) (hs : e.isSyntax)
    (hend : e.IsAt none) : e.MayFollow ts.getLast? := by
  have hbound : (fresh ts bindings bound).input.bound = .whole bound := rfl
  have hbalanced : balanced (fresh ts bindings bound).input.tokens.toList = true :=
    balanced_of_parse h (by rintro rfl; cases hs)
  rcases parse_eq_syntax h hs with hrun | ⟨rfl, -⟩
  · obtain ⟨read, hread, hrest, hat⟩ := (rulesLeave hbound _).expression hrun hs
    have hnone := List.head?_eq_none_iff.mp (isAt_unique hat hend)
    have hts : (fresh ts bindings bound).input.rest (fresh ts bindings bound).cursor = ts := by
      simp [fresh, Input.rest]
    rw [hnone, List.append_nil, hts] at hrest
    subst hrest
    refine hread.mayFollow ?_ ?_ (by simpa [fresh] using hbalanced) <;> rintro ⟨⟩
  · cases hend

/-- If it stops there for a mark, then for the one that opens a call. -/
theorem callStart_of_message (h : (fresh ts bindings bound).parse.1 = .error e)
    (hunexpected : e.isUnexpected)
    (hends : "got end of expression".toList <:+ e.message.toList) :
    (∃ name, e = .required (.callStart name) none) ∧
      ∃ token, ts.getLast? = some token ∧ token.lexeme.is .functionName = true := by
  obtain ⟨what, rfl⟩ := (Error.endsWith_message_iff hunexpected).mp hends
  have hlast := mayFollow_of_parse h rfl rfl
  cases what with
  | callStart name => exact ⟨⟨name, rfl⟩, hlast⟩
  | groupEnd | callEnd => exact hlast.elim

/-- So the message does not ask for another mark. -/
theorem message_ne (h : (fresh ts bindings bound).parse.1 = .error e) (hunexpected : e.isUnexpected)
    {message : String} (hends : "got end of expression".toList <:+ message.toList)
    (hmark : message.toList[10]? = some ')') : e.message ≠ message := by
  rintro rfl
  obtain ⟨⟨name, rfl⟩, -⟩ := callStart_of_message h hunexpected hends
  rw [Error.message_callStart] at hmark
  cases hmark

/-- **The tokens do not end inside of a group or a call.** A parser never stops there for a
parenthesis or a comma at the end; an operand is missing only after an operator, or where
there is no token; and for anything else the tokens end too early only after the name of a
function. -/
theorem parse_incomplete (ts : List Token) (bindings : Bindings) (bound : Nat)
    (hleast : 1 ≤ bound) (hgreatest : bound ≤ 114) :
    ∃ p, Parser.new ts bindings (.whole bound) = .ok p ∧ ∀ e, p.parse.1 = .error e →
      (e.isUnexpected → e.message ≠ "Expected ')', got end of expression" ∧
        e.message ≠ "Expected ')' or ',', got end of expression") ∧
      (e = .missingOperand → ts = [] ∨
        ∃ token, ts.getLast? = some token ∧ token.lexeme.is .operator = true) ∧
      (e.isUnexpected → "got end of expression".toList <:+ e.message.toList →
        ∃ token, ts.getLast? = some token ∧ token.lexeme.is .functionName = true) := by
  refine ⟨fresh ts bindings bound, new_eq_fresh hleast hgreatest, fun e h => ⟨?_, ?_, ?_⟩⟩
  · intro hunexpected
    have hgroup : "got end of expression".toList <:+
        "Expected ')', got end of expression".toList := ⟨"Expected ')', ".toList, rfl⟩
    have hcall : "got end of expression".toList <:+
        "Expected ')' or ',', got end of expression".toList :=
      ⟨"Expected ')' or ',', ".toList, rfl⟩
    exact ⟨message_ne h hunexpected hgroup rfl, message_ne h hunexpected hcall rfl⟩
  · rintro rfl
    have hlast := mayFollow_of_parse h rfl rfl
    cases hts : ts.getLast? with
    | none => exact .inl (List.getLast?_eq_none_iff.mp hts)
    | some token => exact .inr ⟨token, rfl, hlast token hts⟩
  · intro hunexpected hends
    exact (callStart_of_message h hunexpected hends).2

/-- The tokens of `2*sin`, where the call has no arguments. -/
def callWithoutArguments : List Token :=
  [⟨.number 2, 0⟩, ⟨.symbol .operator "*", 1⟩, ⟨.symbol .functionName "sin", 2⟩]

/-- The parser wants the parenthesis after the name, which is the last token. -/
theorem callWithoutArguments_incomplete :
    ∃ p e, Parser.new callWithoutArguments [] (.whole 1) = .ok p ∧ p.parse.1 = .error e ∧
      e.message = "Expected '(' after function sin, got end of expression" ∧
      ∃ token, callWithoutArguments.getLast? = some token ∧
        token.lexeme.is .functionName = true := by
  obtain ⟨p, hp, h⟩ := parse_incomplete callWithoutArguments [] 1 (by decide) (by decide)
  obtain rfl : fresh callWithoutArguments [] 1 = p := Except.ok.inj hp
  have herror : (fresh callWithoutArguments [] 1).parse.1 =
      .error (.required (.callStart "sin") none) := rfl
  have hmessage : (Error.required (.callStart "sin") none).message =
      "Expected '(' after function sin, got end of expression" := rfl
  have hends : "got end of expression".toList <:+
      "Expected '(' after function sin, got end of expression".toList :=
    ⟨"Expected '(' after function sin, ".toList, rfl⟩
  exact ⟨_, _, hp, herror, hmessage, (h _ herror).2.2 rfl (hmessage ▸ hends)⟩

end Grammar

end Reckon
