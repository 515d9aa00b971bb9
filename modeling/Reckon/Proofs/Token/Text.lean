import Reckon.Proofs.Except
import Reckon.Proofs.Token.Ending
/-!
# Token — the tokens of a text

A text is blank exactly if it has no tokens (`tokenize_eq`), and it fails where a
token is refused. Where it starts has no say in what its tokens are, nor in what it
fails for, but for the places (`tokens_moved`). A separator parts a text: what
stands before it is read as it would be by itself, and fails as it would
(`tokens_append`). So texts that spell something can be put together at a
separator (`Spells.append`).
-/

namespace Reckon

/-- A token, `n` characters further on. -/
def Token.moved (n : Nat) (token : Token) : Token :=
  { token with position := token.position + n }

/-- An error of a text, told of one that starts `n` characters further on. -/
def Error.moved (n : Nat) : Error → Error
  | invalidCharacter c position => invalidCharacter c (position + n)
  | invalidNumber literal position => invalidNumber literal (position + n)
  | e => e

namespace Scan

variable {declared : List String} {position n : Nat} {c d : Char} {a b r : List Char}
  {word : Lexeme} {more : Nat} {ts : List Token}

/-! ## One token and the next -/

/-- A token comes first, and then what follows it. -/
theorem tokens_cons (hb : Text.isBlank c = false)
    (hl : lexeme declared position c r = .ok (word, more)) :
    tokens declared 0 position (c :: r) = (do
      let ts ← tokens declared more (position + 1) r
      return ⟨word, position⟩ :: ts) := by
  rw [tokens, hb, hl]
  rfl

/-- Characters of a token that has been read are passed. -/
theorem tokens_pass (declared : List String) (passed : List Char) (position : Nat) :
    tokens declared passed.length position (passed ++ r) =
      tokens declared 0 (position + passed.length) r := by
  induction passed generalizing position with
  | nil => rfl
  | cons c passed ih =>
    rw [List.length_cons, List.cons_append, tokens, ih, Nat.add_right_comm, Nat.add_assoc]

/-- What a text has for tokens, one character further on. -/
theorem tokens_cons_eq_ok (h : tokens declared 0 position (c :: r) = .ok ts) :
    (Text.isBlank c = true ∧ tokens declared 0 (position + 1) r = .ok ts) ∨
      (Text.isBlank c = false ∧ ∃ word more rest, ts = ⟨word, position⟩ :: rest ∧
        lexeme declared position c r = .ok (word, more) ∧
        tokens declared more (position + 1) r = .ok rest) := by
  rw [tokens] at h
  cases hb : Text.isBlank c with
  | true =>
    rw [if_pos hb] at h
    exact .inl ⟨rfl, h⟩
  | false =>
    rw [hb, if_neg Bool.false_ne_true] at h
    obtain ⟨⟨word, more⟩, hword, h⟩ := Except.bind_eq_ok_iff.mp h
    obtain ⟨rest, hrest, h⟩ := Except.bind_eq_ok_iff.mp h
    cases h
    exact .inr ⟨rfl, word, more, rest, rfl, hword, hrest⟩

/-- Why a text fails, one character further on: its first token is refused, or what
follows that fails. -/
theorem tokens_cons_eq_error (h : tokens declared 0 position (c :: r) = .error e) :
    (Text.isBlank c = true ∧ tokens declared 0 (position + 1) r = .error e) ∨
      (Text.isBlank c = false ∧ (lexeme declared position c r = .error e ∨
        ∃ word more, lexeme declared position c r = .ok (word, more) ∧
          tokens declared more (position + 1) r = .error e)) := by
  rw [tokens] at h
  cases hb : Text.isBlank c with
  | true =>
    rw [if_pos hb] at h
    exact .inl ⟨rfl, h⟩
  | false =>
    rw [hb, if_neg Bool.false_ne_true] at h
    rcases Except.bind_eq_error_iff.mp h with h | ⟨⟨word, more⟩, hword, h⟩
    · exact .inr ⟨rfl, .inl h⟩
    rcases Except.bind_eq_error_iff.mp h with h | ⟨rest, -, h⟩
    · exact .inr ⟨rfl, .inr ⟨word, more, hword, h⟩⟩
    · cases h

/-- **A text fails where a token is refused,** and for nothing else. -/
theorem failsOnly_tokens {P : Error → Prop}
    (h : ∀ position c rest, Except.FailsOnly P (lexeme declared position c rest)) (r : List Char) :
    ∀ skip position, Except.FailsOnly P (tokens declared skip position r) := by
  induction r with
  | nil =>
    intro skip position
    rw [tokens]
    exact .ok []
  | cons c r ih =>
    intro skip position
    cases skip with
    | succ skip => exact ih skip (position + 1)
    | zero =>
      rw [tokens]
      split
      · exact ih 0 (position + 1)
      · refine .bind (h position c r) fun found => ?_
        exact .bind (ih found.2 (position + 1)) fun ts => .ok _

/-! ## Blank texts -/

/-- **A text without tokens is blank,** and the other way round. -/
theorem tokens_eq_nil_iff :
    tokens declared 0 position r = .ok [] ↔ r.all Text.isBlank = true := by
  induction r generalizing position with
  | nil => exact iff_of_true rfl rfl
  | cons c r ih =>
    cases hb : Text.isBlank c with
    | true => rw [tokens, if_pos hb, ih, List.all_cons, hb, Bool.true_and]
    | false =>
      rw [List.all_cons, hb, Bool.false_and]
      refine ⟨fun h => ?_, nofun⟩
      rcases tokens_cons_eq_ok h with ⟨hblank, -⟩ | ⟨-, word, more, rest, hts, -, -⟩
      · rw [hb] at hblank
        cases hblank
      · cases hts

/-- The tokens, where there are any. -/
def someToken (ts : List Token) : Except Error (List Token) :=
  if ts = [] then .error .emptyExpression else .ok ts

/-- **The tokens of an expression** are those of its characters, of which there have
to be some. -/
theorem tokenize_eq (declared : List String) (expression : String) :
    tokenize declared expression = (do
      let ts ← tokens declared 0 0 expression.toList
      someToken ts) := by
  rw [tokenize]
  split
  · next hblank =>
    rw [tokens_eq_nil_iff.mpr hblank]
    rfl
  · next hblank =>
    cases hts : tokens declared 0 0 expression.toList with
    | error e => rfl
    | ok ts =>
      have hne : ts ≠ [] := fun h => hblank (tokens_eq_nil_iff.mp (h ▸ hts))
      exact (if_neg hne).symm

theorem tokenize_eq_ok_iff {expression : String} :
    tokenize declared expression = .ok ts ↔
      tokens declared 0 0 expression.toList = .ok ts ∧ ts ≠ [] := by
  rw [tokenize_eq, Except.bind_eq_ok_iff]
  constructor
  · rintro ⟨ts', hts, h⟩
    rw [someToken] at h
    split at h
    · cases h
    · next hne =>
      cases h
      exact ⟨hts, hne⟩
  · rintro ⟨hts, hne⟩
    exact ⟨ts, hts, if_neg hne⟩

theorem tokenize_eq_ok {expression : String} (h : tokenize declared expression = .ok ts) :
    tokens declared 0 0 expression.toList = .ok ts :=
  (tokenize_eq_ok_iff.mp h).1

theorem tokenize_of_tokens (h : tokens declared 0 0 r = .ok ts) (hts : ts ≠ []) :
    tokenize declared (String.ofList r) = .ok ts :=
  tokenize_eq_ok_iff.mpr ⟨by rwa [String.toList_ofList], hts⟩

/-- No text that is not blank fails for being blank. -/
theorem tokens_ne_emptyExpression (r : List Char) (skip position : Nat) :
    tokens declared skip position r ≠ .error .emptyExpression := by
  have hrefused (position : Nat) (c : Char) (rest : List Char) :
      Except.FailsOnly (· ≠ .emptyExpression) (lexeme declared position c rest) := by
    rintro e h rfl
    cases refused_of_lexeme h
  exact fun h => failsOnly_tokens hrefused r skip position _ h rfl

theorem tokenize_eq_error_iff {expression : String} {e : Error} (he : e ≠ .emptyExpression) :
    tokenize declared expression = .error e ↔
      tokens declared 0 0 expression.toList = .error e := by
  rw [tokenize_eq, Except.bind_eq_error_iff]
  refine ⟨?_, .inl⟩
  rintro (h | ⟨ts, -, h⟩)
  · exact h
  · rw [someToken] at h
    split at h <;> cases h
    exact absurd rfl he

/-! ## Where a text starts -/

/-- What a text comes to, told of one that starts `n` characters further on. -/
def moved (n : Nat) : Except Error (List Token) → Except Error (List Token)
  | .ok ts => .ok (ts.map (Token.moved n))
  | .error e => .error (e.moved n)

/-- A token is refused for the same reason wherever it stands. -/
theorem Refused.moved {e : Error} (h : Refused declared position c r e) (n : Nat) :
    Refused declared (position + n) c r (e.moved n) := by
  cases h with
  | points hmantissa hcount => exact .points hmantissa hcount
  | literal hmantissa hcount hread => exact .literal hmantissa hcount hread
  | name hstart hnone => exact .name hstart hnone
  | character hmantissa hstar hkind hstart => exact .character hmantissa hstar hkind hstart

theorem lexeme_moved (n : Nat) : lexeme declared (position + n) c r =
    (lexeme declared position c r).mapError (Error.moved n) := by
  cases h : lexeme declared position c r with
  | ok found => exact lexeme_of_tokenAt (tokenAt_of_lexeme h)
  | error e => exact lexeme_of_refused ((refused_of_lexeme h).moved n)

/-- **A text has the same tokens wherever it starts,** or fails for the same reason, at
other places. -/
theorem tokens_moved (n : Nat) (r : List Char) : ∀ skip position,
    tokens declared skip (position + n) r = moved n (tokens declared skip position r) := by
  induction r with
  | nil =>
    intro skip position
    rw [tokens, tokens]
    rfl
  | cons c r ih =>
    intro skip position
    cases skip with
    | succ skip => rw [tokens, tokens, Nat.add_right_comm, ih]
    | zero =>
      rw [tokens, tokens, Nat.add_right_comm]
      split
      · exact ih 0 (position + 1)
      · rw [lexeme_moved]
        cases lexeme declared position c r with
        | error e => rfl
        | ok found =>
          simp only [Except.mapError_ok, bind, Except.bind, ih]
          cases tokens declared found.2 (position + 1) r <;> rfl

/-! ## Two texts -/

/-- **A separator parts a text:** what stands before it is read as it would be by itself,
and so is the text from the separator on. -/
theorem tokens_append (hd : isSeparator d = true) (a : List Char) :
    ∀ skip position, skip ≤ a.length →
      tokens declared skip position (a ++ d :: b) = (do
        let ts ← tokens declared skip position a
        let rest ← tokens declared 0 (position + a.length) (d :: b)
        return ts ++ rest) := by
  simp only [isSeparator, Bool.and_eq_true, Bool.not_eq_true', decide_eq_true_eq] at hd
  induction a with
  | nil =>
    intro skip position hskip
    obtain rfl : skip = 0 := Nat.le_zero.mp hskip
    exact (bind_pure _).symm
  | cons c a ih =>
    intro skip position hskip
    have hlength : position + (c :: a).length = position + 1 + a.length := by
      rw [List.length_cons]
      omega
    rw [hlength, List.cons_append]
    cases skip with
    | succ skip => exact ih skip (position + 1) (Nat.le_of_succ_le_succ hskip)
    | zero =>
      have hword : lexeme declared position c (a ++ d :: b) = lexeme declared position c a :=
        lexeme_append hd.1.1 hd.2 fun _ => takeWhile_append_cons hd.1.2
      rw [tokens, tokens, hword]
      split
      · exact ih 0 (position + 1) (Nat.zero_le _)
      · cases hl : lexeme declared position c a with
        | error e => rfl
        | ok found =>
          obtain ⟨word, more⟩ := found
          have hrest := ih more (position + 1) (tokenAt_of_lexeme hl).more_le
          simp only [bind, Except.bind, hrest]
          cases tokens declared more (position + 1) a with
          | error e => rfl
          | ok ts => cases tokens declared 0 (position + 1 + a.length) (d :: b) <;> rfl

/-- **A text spells what its tokens say,** wherever it starts. -/
def Spells (declared : List String) (s : List Char) (words : List Lexeme) : Prop :=
  ∀ position, ∃ ts, tokens declared 0 position s = .ok ts ∧ ts.map (·.lexeme) = words

namespace Spells

variable {words words' : List Lexeme}

/-- Tokens say the same further on. -/
theorem lexemes_moved (n : Nat) (ts : List Token) :
    (ts.map (Token.moved n)).map (·.lexeme) = ts.map (·.lexeme) := by
  rw [List.map_map]
  rfl

theorem of_tokens (h : tokens declared 0 position r = .ok ts) :
    Spells declared r (ts.map (·.lexeme)) := by
  have hstart (position : Nat) := @tokens_moved declared position r 0 0
  simp only [Nat.zero_add] at hstart
  rw [hstart] at h
  intro position'
  rw [hstart]
  cases hts : tokens declared 0 0 r with
  | error e =>
    rw [hts] at h
    cases h
  | ok ts₀ =>
    rw [hts] at h
    obtain rfl := Except.ok.inj h
    exact ⟨_, rfl, (lexemes_moved _ _).trans (lexemes_moved _ _).symm⟩

/-- A character that is a token by itself comes first. -/
theorem cons (hb : Text.isBlank c = false)
    (hl : ∀ position, lexeme declared position c r = .ok (word, 0)) (hr : Spells declared r words) :
    Spells declared (c :: r) (word :: words) := by
  intro position
  obtain ⟨ts, hts, hwords⟩ := hr (position + 1)
  refine ⟨⟨word, position⟩ :: ts, ?_, congrArg _ hwords⟩
  rw [tokens_cons hb (hl position), hts]
  rfl

/-- Two texts come one after the other where the second starts with a separator. -/
theorem append (ha : Spells declared a words) (hd : isSeparator d = true)
    (hb : Spells declared (d :: b) words') : Spells declared (a ++ d :: b) (words ++ words') := by
  intro position
  obtain ⟨ts, hts, hwords⟩ := ha position
  obtain ⟨ts', hts', hwords'⟩ := hb (position + a.length)
  refine ⟨ts ++ ts', ?_, by rw [List.map_append, hwords, hwords']⟩
  rw [tokens_append hd a 0 position (Nat.zero_le _), hts, hts']
  rfl

end Spells

end Scan

end Reckon
