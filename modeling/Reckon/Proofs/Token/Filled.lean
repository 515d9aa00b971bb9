import Reckon.Evaluate
import Reckon.Proofs.Token.Text
/-!
# Token — a text in place of the variable

A template with a text, in parentheses, in place of each of its variables
(`substituted`). It spells what the template does, with what that text spells
between parentheses for each variable (`spells_filled`): what stands before a
variable ends there as it ends before a parenthesis.
-/

namespace Reckon

namespace Scan

/-- The text that starts at a position and has these tokens, with another text in
parentheses in place of each variable. -/
def filled (inner : List Char) : (position : Nat) → List Token → List Char → List Char
  | _, [], s => s
  | position, token :: rest, s =>
    match token.lexeme with
    | .symbol .variableName name =>
      let before := token.position.toNat - position
      s.take before ++ '(' :: inner ++ ')' ::
        filled inner (position + before + name.length) rest (s.drop (before + name.length))
    | _ => filled inner position rest s

/-- What a token says once the variable is filled: itself, or what is put in its
place. -/
def filledLexemes (inner : List Lexeme) (token : Token) : List Lexeme :=
  if token.lexeme = .symbol .variableName variableName then
    .symbol .openParen "(" :: inner ++ [.symbol .closeParen ")"]
  else [token.lexeme]

variable {inner : List Char} {position : Nat} {a b s : List Char} {ts ts₁ ts₂ : List Token}
  {c : Char} {word : Lexeme} {more : Nat}

/-- Tokens before the first variable fill nothing. -/
theorem filled_append (h : ∀ token ∈ ts₁, token.lexeme.is .variableName = false) :
    filled inner position (ts₁ ++ ts₂) s = filled inner position ts₂ s := by
  induction ts₁ with
  | nil => rfl
  | cons token ts₁ ih =>
    have hrest := ih fun t ht => h t (List.mem_cons_of_mem token ht)
    have htoken := h token List.mem_cons_self
    rw [List.cons_append, filled]
    split
    · next heq => simp [heq, Lexeme.is] at htoken
    · exact hrest

/-- The first variable is replaced where it stands. -/
theorem filled_variable :
    filled inner position
        (⟨.symbol .variableName variableName, (position + a.length : Nat)⟩ :: ts) (a ++ 'x' :: b) =
      a ++ '(' :: (inner ++ ')' :: filled inner (position + a.length + 1) ts b) := by
  have hbefore : ((position + a.length : Nat) : Int).toNat - position = a.length := by omega
  have hlength : variableName.length = 1 := rfl
  have hafter : (a ++ 'x' :: b).drop (a.length + 1) = b := by
    rw [List.drop_length_add_append]
    rfl
  rw [filled]
  simp only [hbefore, hlength, hafter, List.take_left', List.append_assoc, List.cons_append]

/-- A token that is no variable says what it says. -/
theorem filledLexemes_of_not_is {words : List Lexeme} {token : Token}
    (h : token.lexeme.is .variableName = false) : filledLexemes words token = [token.lexeme] := by
  have hne : token.lexeme ≠ .symbol .variableName variableName := by
    intro heq
    rw [heq] at h
    cases h
  rw [filledLexemes, if_neg hne]

theorem flatMap_filledLexemes {words : List Lexeme}
    (h : ∀ token ∈ ts, token.lexeme.is .variableName = false) :
    ts.flatMap (filledLexemes words) = ts.map (·.lexeme) := by
  induction ts with
  | nil => rfl
  | cons token ts ih =>
    rw [List.flatMap_cons, List.map_cons, ih fun t ht => h t (List.mem_cons_of_mem token ht),
      filledLexemes_of_not_is (h token List.mem_cons_self)]
    rfl

/-! ## The first variable of a text -/

/-- **What is no variable** does not hang on the variables that are declared. -/
theorem TokenAt.undeclared {r : List Char} (h : TokenAt [variableName] c r word more)
    (hword : word.is .variableName = false) : TokenAt [] c r word more := by
  refine h.redeclared ?_
  unfold undeclaredName?
  split
  · simp [Lexeme.is] at hword
  · rfl

/-- **A variable is one character.** -/
theorem TokenAt.eq_variable {r : List Char} (h : TokenAt [variableName] c r word more)
    (hword : word.is .variableName = true) :
    c = 'x' ∧ word = .symbol .variableName variableName ∧ more = 0 := by
  cases h with
  | number | stars | star => cases hword
  | punctuation hkind =>
    unfold punctuation? at hkind
    split at hkind <;> cases hkind <;> cases hword
  | name hstart hkind =>
    rcases nameKind?_cases hkind with ⟨rfl, -⟩ | ⟨rfl, -⟩ | ⟨rfl, hdeclared, -⟩
    · cases hword
    · cases hword
    · have htext := List.mem_singleton.mp hdeclared
      have hletters : (c :: r).takeWhile isNameChar = ['x'] := String.ofList_injective htext
      have hc : isNameChar c = true := by rw [isNameChar, hstart, Bool.true_or]
      rw [htext, hletters]
      rw [List.takeWhile_cons_of_pos hc] at hletters
      exact ⟨(List.cons.inj hletters).1, rfl, rfl⟩

/-- **A text is cut at its first variable:** there is none and nothing hangs on what is
declared, or what stands before it has the tokens that it has by itself, and the
tokens after it are those of what stands there. -/
def Cut (skip position : Nat) (s : List Char) (ts : List Token) : Prop :=
  ((∀ token ∈ ts, token.lexeme.is .variableName = false) ∧ tokens [] skip position s = .ok ts) ∨
    ∃ a b ts₁ ts₂, s = a ++ 'x' :: b ∧ skip ≤ a.length ∧
      ts = ts₁ ++ ⟨.symbol .variableName variableName, (position + a.length : Nat)⟩ :: ts₂ ∧
      (∀ token ∈ ts₁, token.lexeme.is .variableName = false) ∧
      tokens [] skip position a = .ok ts₁ ∧
      tokens [variableName] 0 (position + a.length + 1) b = .ok ts₂

namespace Cut

/-- A first variable further on is as far from the character before. -/
theorem further (a : List Char) : position + 1 + a.length = position + (c :: a).length := by
  rw [List.length_cons]
  omega

/-- A character of a token that has been read changes nothing. -/
theorem passed {skip : Nat} (h : Cut skip (position + 1) s ts) :
    Cut (skip + 1) position (c :: s) ts := by
  rcases h with hnone | ⟨a, b, ts₁, ts₂, rfl, hskip, hts, hfirst⟩
  · exact .inl hnone
  · rw [further (c := c)] at hts hfirst
    exact .inr ⟨c :: a, b, ts₁, ts₂, rfl, Nat.succ_le_succ hskip, hts, hfirst⟩

/-- Nor does a blank. -/
theorem blank (hb : Text.isBlank c = true) (h : Cut 0 (position + 1) s ts) :
    Cut 0 position (c :: s) ts := by
  have hblank (r : List Char) (start : Nat) :
      tokens [] 0 start (c :: r) = tokens [] 0 (start + 1) r := by rw [tokens, if_pos hb]
  rcases h with ⟨hnone, hts⟩ | ⟨a, b, ts₁, ts₂, rfl, -, hts, hnone, h₁, h₂⟩
  · exact .inl ⟨hnone, (hblank _ _).trans hts⟩
  · rw [further (c := c)] at hts h₂
    have hfirst := (hblank a position).trans h₁
    exact .inr ⟨c :: a, b, ts₁, ts₂, rfl, Nat.zero_le _, hts, hnone, hfirst, h₂⟩

/-- A token that is no variable comes before the first one. -/
theorem token (hb : Text.isBlank c = false)
    (htoken : TokenAt [variableName] c s word more) (hother : word.is .variableName = false)
    (h : Cut more (position + 1) s ts) :
    Cut 0 position (c :: s) (⟨word, position⟩ :: ts) := by
  have hcons {r : List Char} {ts : List Token} (hl : lexeme [] position c r = .ok (word, more))
      (hr : tokens [] more (position + 1) r = .ok ts) :
      tokens [] 0 position (c :: r) = .ok (⟨word, position⟩ :: ts) := by
    rw [tokens_cons hb hl, hr]
    rfl
  have hall {ts : List Token} (hnone : ∀ token ∈ ts, token.lexeme.is .variableName = false) :
      ∀ token ∈ ⟨word, position⟩ :: ts, token.lexeme.is .variableName = false :=
    List.forall_mem_cons.mpr ⟨hother, hnone⟩
  rcases h with ⟨hnone, hts⟩ | ⟨a, b, ts₁, ts₂, rfl, hmore, hts, hnone, h₁, h₂⟩
  · exact .inl ⟨hall hnone, hcons (lexeme_of_tokenAt (htoken.undeclared hother)) hts⟩
  · rw [further (c := c)] at hts h₂
    have hfirst := hcons (lexeme_of_tokenAt ((htoken.cut hmore).undeclared hother)) h₁
    exact .inr ⟨c :: a, b, ⟨word, position⟩ :: ts₁, ts₂, rfl, Nat.zero_le _, congrArg _ hts,
      hall hnone, hfirst, h₂⟩

end Cut

/-- **Every text with tokens is cut at its first variable.** -/
theorem cut_of_tokens (s : List Char) : ∀ (skip position : Nat) (ts : List Token),
    tokens [variableName] skip position s = .ok ts → Cut skip position s ts := by
  induction s with
  | nil =>
    intro skip position ts h
    cases h
    exact .inl ⟨by simp, rfl⟩
  | cons c s ih =>
    intro skip position ts h
    cases skip with
    | succ skip => exact .passed (ih skip (position + 1) ts h)
    | zero =>
      rcases tokens_cons_eq_ok h with ⟨hb, h⟩ | ⟨hb, word, more, rest, rfl, hword, h⟩
      · exact .blank hb (ih 0 (position + 1) ts h)
      · cases hvariable : word.is .variableName with
        | false =>
          exact .token hb (tokenAt_of_lexeme hword) hvariable (ih more (position + 1) rest h)
        | true =>
          -- the variable stands here, and what follows it goes on after one character
          obtain ⟨rfl, rfl, rfl⟩ := (tokenAt_of_lexeme hword).eq_variable hvariable
          exact .inr ⟨[], s, [], rest, rfl, Nat.le_refl _, rfl, by simp, rfl, h⟩

/-- **A text whose variables are filled** spells what its own tokens say, with what
the other text spells, between parentheses, for each variable. -/
theorem spells_filled {words : List Lexeme} (hinner : Spells [] inner words) (s : List Char)
    (position : Nat) (ts : List Token) (h : tokens [variableName] 0 position s = .ok ts) :
    Spells [] (filled inner position ts s) (ts.flatMap (filledLexemes words)) := by
  rcases cut_of_tokens s 0 position ts h with
    ⟨hnone, hts⟩ | ⟨a, b, ts₁, ts₂, hs, -, rfl, hnone, h₁, h₂⟩
  · -- without a variable the text stays as it is
    have hsame : filled inner position ts s = s :=
      (congrArg (filled inner position · s) (List.append_nil ts)).symm.trans (filled_append hnone)
    rw [hsame, flatMap_filledLexemes hnone]
    exact .of_tokens hts
  · have hshorter : b.length < s.length := by
      rw [hs, List.length_append, List.length_cons]
      omega
    have hrest := spells_filled hinner b _ ts₂ h₂
    have hclosed := Spells.cons (c := ')') (by decide) (fun _ => rfl) hrest
    have hopened := Spells.cons (c := '(') (by decide) (fun _ => rfl)
      (hinner.append (by decide) hclosed)
    have htext := (Spells.of_tokens h₁).append (by decide) hopened
    rw [hs, filled_append hnone, filled_variable]
    rw [List.flatMap_append, flatMap_filledLexemes hnone, List.flatMap_cons]
    simpa [filledLexemes, Lexeme.is] using htext
termination_by s.length

end Scan

/-- **A template with an expression in place of its variable,** in parentheses. -/
def substituted (template inner : String) : String :=
  match tokenize [variableName] template with
  | .ok ts => String.ofList (Scan.filled inner.toList 0 ts template.toList)
  | .error _ => template

example : substituted "-x^x" "-3" = "-(-3)^(-3)" := by decide

end Reckon
