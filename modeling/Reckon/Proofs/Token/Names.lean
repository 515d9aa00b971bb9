import Reckon.Proofs.Token.Text
/-!
# Token — the names of a text

The names among the tokens of a text all stand for something
(`resolved_of_tokens`). Under other declared names the text has the same tokens,
or its first name that is not declared stands for nothing (`tokens_redeclared`).
Under more declared names it comes to the same, tokens or error, unless it fails
for a name that is declared only then (`tokenize_extended`).
-/

namespace Reckon

namespace Scan

variable {declared declared' : List String}

/-- **The names among the tokens of a text all stand for something.** -/
theorem resolved_of_tokens (r : List Char) : ∀ (skip position : Nat) (ts : List Token),
    tokens declared skip position r = .ok ts → ∀ token ∈ ts, Resolved declared token.lexeme := by
  induction r with
  | nil =>
    intro skip position ts h
    cases h
    simp
  | cons c r ih =>
    intro skip position ts h
    cases skip with
    | succ skip => exact ih skip (position + 1) ts h
    | zero =>
      rcases tokens_cons_eq_ok h with ⟨-, h⟩ | ⟨-, word, more, rest, rfl, hword, h⟩
      · exact ih 0 (position + 1) ts h
      · have hrest := ih more (position + 1) rest h
        exact List.forall_mem_cons.mpr ⟨(tokenAt_of_lexeme hword).resolved, hrest⟩

/-- What tokens are under other declared names: the same, unless one of them is a
variable that is not declared. -/
def redeclare (declared : List String) (ts : List Token) : Except Error (List Token) :=
  match (ts.map (·.lexeme)).findSome? (undeclaredName? declared) with
  | none => .ok ts
  | some name => .error (.unknownName name)

theorem redeclare_cons (token : Token) (ts : List Token) :
    redeclare declared (token :: ts) =
      match undeclaredName? declared token.lexeme with
      | some name => .error (.unknownName name)
      | none => do return token :: (← redeclare declared ts) := by
  rw [redeclare, List.map_cons, List.findSome?_cons, redeclare]
  cases undeclaredName? declared token.lexeme with
  | some name => rfl
  | none => cases (ts.map (·.lexeme)).findSome? (undeclaredName? declared) <;> rfl

/-- **Under other declared names** a text has the same tokens, or fails for its
first name that is not declared. -/
theorem tokens_redeclared (r : List Char) : ∀ (skip position : Nat) (ts : List Token),
    tokens declared skip position r = .ok ts →
      tokens declared' skip position r = redeclare declared' ts := by
  induction r with
  | nil =>
    intro skip position ts h
    cases h
    rw [tokens]
    rfl
  | cons c r ih =>
    intro skip position ts h
    cases skip with
    | succ skip => exact ih skip (position + 1) ts h
    | zero =>
      rcases tokens_cons_eq_ok h with ⟨hb, h⟩ | ⟨hb, word, more, rest, rfl, hword, h⟩
      · rw [tokens, if_pos hb]
        exact ih 0 (position + 1) ts h
      · rw [redeclare_cons]
        cases hname : undeclaredName? declared' word with
        | some text =>
          rw [tokens, hb, lexeme_undeclared_name (tokenAt_of_lexeme hword) hname]
          rfl
        | none =>
          have htoken := (tokenAt_of_lexeme hword).redeclared hname
          rw [tokens_cons hb (lexeme_of_tokenAt htoken), ih more (position + 1) rest h]

/-! ## More declared names -/

/-- **An error for a name that is declared only now.** -/
def NewlyDeclared (declared declared' : List String) (e : Error) : Prop :=
  ∃ name ∈ declared', name ∉ declared ∧ e = .unknownName name

section

variable (hsub : declared ⊆ declared') {position : Nat} {c : Char} {r : List Char}

include hsub

/-- A name stands for what it stood for, or for nothing before it was declared. -/
theorem nameKind?_extended (text : String) :
    nameKind? declared' text = nameKind? declared text ∨
      text ∈ declared' ∧ text ∉ declared ∧ nameKind? declared text = none := by
  rw [nameKind?, nameKind?]
  split
  · exact .inl rfl
  split
  · exact .inl rfl
  by_cases hold : text ∈ declared
  · exact .inl (by rw [if_pos hold, if_pos (hsub hold)])
  by_cases hnew : text ∈ declared'
  · exact .inr ⟨hnew, hold, if_neg hold⟩
  · exact .inl (by rw [if_neg hold, if_neg hnew])

theorem name_extended (s : List Char) :
    Except.SameUnless (NewlyDeclared declared declared') (name declared s) (name declared' s) := by
  rw [name, name]
  rcases nameKind?_extended hsub (String.ofList (s.takeWhile isNameChar)) with
    hsame | ⟨hnew, hold, hnone⟩
  · rw [hsame]
    exact .same _
  · rw [hnone]
    exact .error ⟨_, hnew, hold, rfl⟩

/-- So does a token: what is no name does not hang on what is declared. -/
theorem lexeme_extended :
    Except.SameUnless (NewlyDeclared declared declared') (lexeme declared position c r)
      (lexeme declared' position c r) := by
  cases hstart : isNameStart c with
  | true =>
    rw [lexeme_of_isNameStart hstart, lexeme_of_isNameStart hstart]
    exact name_extended hsub (c :: r)
  | false =>
    refine .inl ?_
    simp only [lexeme, hstart, Bool.false_eq_true, if_false]

theorem tokens_extended (r : List Char) : ∀ skip position,
    Except.SameUnless (NewlyDeclared declared declared') (tokens declared skip position r)
      (tokens declared' skip position r) := by
  induction r with
  | nil =>
    intro skip position
    rw [tokens, tokens]
    exact .same _
  | cons c r ih =>
    intro skip position
    cases skip with
    | succ skip => exact ih skip (position + 1)
    | zero =>
      rw [tokens, tokens]
      split
      · exact ih 0 (position + 1)
      · refine .bind (lexeme_extended hsub) fun found => ?_
        exact .bind (ih found.2 (position + 1)) fun ts => .same _

end

/-- **No text fails for a name that is declared.** -/
theorem failsOnly_undeclared (position : Nat) (c : Char) (r : List Char) :
    Except.FailsOnly (fun e => ∀ name ∈ declared, e ≠ .unknownName name)
      (lexeme declared position c r) := by
  intro e h
  cases refused_of_lexeme h with
  | points | literal | character => rintro name - ⟨⟩
  | name hstart hnone =>
    rintro name hname heq
    obtain rfl := Error.unknownName.inj heq
    rw [nameKind?, if_pos hname] at hnone
    split at hnone
    · cases hnone
    · split at hnone <;> cases hnone

end Scan

variable {declared declared' : List String} {expression : String}

/-- **Under more declared names** an expression comes to the same, tokens or error,
unless it fails for a name that is declared only then. -/
theorem tokenize_extended (hsub : declared ⊆ declared') :
    Except.SameUnless (Scan.NewlyDeclared declared declared') (tokenize declared expression)
      (tokenize declared' expression) := by
  rw [tokenize, tokenize]
  split
  · exact .same _
  · exact Scan.tokens_extended hsub _ 0 0

theorem tokenize_ne_unknownName {name : String} (h : name ∈ declared) :
    tokenize declared expression ≠ .error (.unknownName name) := by
  rw [tokenize]
  split
  · rintro ⟨⟩
  · exact fun he => Scan.failsOnly_tokens Scan.failsOnly_undeclared _ 0 0 _ he name h rfl

end Reckon
