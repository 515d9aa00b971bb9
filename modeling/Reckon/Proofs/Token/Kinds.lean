import Reckon.Token.Scan
/-!
# Token — the kinds of token

The token at a character is a number, an operator or a mark of one or two
characters, or a name (`TokenAt`, `lexeme_eq_ok_iff`); where there is none, the error
says what stands there instead (`Refused`, `lexeme_eq_error_iff`). Where a token stands
has no say in it, and only the kind of a name hangs on what is declared
(`TokenAt.redeclared`, `lexeme_undeclared_name`).
-/

namespace Reckon

namespace Scan

variable {declared declared' : List String} {position : Nat} {c : Char} {r : List Char}
  {word : Lexeme} {more : Nat} {kind : Symbol}

/-! ## Characters -/

theorem isMantissa_of_isDigit (h : Decimal.isDigit c = true) : isMantissa c = true := by
  rw [isMantissa, h, Bool.true_or]

/-- A character that starts a name belongs to no number. -/
theorem isMantissa_of_isNameStart (h : isNameStart c = true) : isMantissa c = false := by
  rw [isNameStart, Bool.or_eq_true, Bool.or_eq_true, Bool.and_eq_true, Bool.and_eq_true] at h
  simp only [decide_eq_true_eq, beq_iff_eq] at h
  have hcode : 65 ≤ c.toNat := by
    rcases h with (⟨h, -⟩ | ⟨h, -⟩) | rfl
    · exact Nat.le_trans (by decide) (show 97 ≤ c.toNat from h)
    · exact h
    · decide
  rw [isMantissa, Bool.or_eq_false_iff]
  constructor
  · rw [Decimal.isDigit, Bool.and_eq_false_iff, decide_eq_false_iff_not, decide_eq_false_iff_not]
    refine .inr fun hdigit => ?_
    have : c.toNat ≤ 57 := hdigit
    omega
  · rw [beq_eq_false_iff_ne]
    rintro rfl
    exact absurd hcode (by decide)

/-- A character that starts a name starts nothing else. -/
theorem lexeme_of_isNameStart (h : isNameStart c = true) :
    lexeme declared position c r = name declared (c :: r) := by
  have hsigns : ['*', '+', '-', '/', '%', '^', '(', ')', ','].all (!isNameStart ·) = true := rfl
  have hnone : ∀ e ∈ ['*', '+', '-', '/', '%', '^', '(', ')', ','], c ≠ e := by
    rintro e he rfl
    have hsign := List.all_eq_true.mp hsigns c he
    rw [h] at hsign
    cases hsign
  have hpunctuation : punctuation? c = none := by
    unfold punctuation?
    split <;> first | rfl | exact absurd rfl (hnone _ (by decide))
  unfold lexeme
  rw [isMantissa_of_isNameStart h, if_neg Bool.false_ne_true, if_neg (hnone '*' (by decide)),
    hpunctuation]
  exact if_pos h

/-! ## The kinds -/

/-- **The kinds of token** that start with a character, and how many characters
after it belong to them. -/
inductive TokenAt (declared : List String) (c : Char) (r : List Char) : Lexeme → Nat → Prop where
  /-- A literal with at most one point in its mantissa. -/
  | number {v : Float} : isMantissa c = true → ((c :: r).takeWhile isMantissa).count '.' ≤ 1 →
      Decimal.readFinite? (literal (c :: r)) = some v →
      TokenAt declared c r (.number v) ((literal (c :: r)).length - 1)
  /-- Two stars. -/
  | stars : c = '*' → r.head? = some '*' → TokenAt declared c r (.symbol .operator "**") 1
  /-- One star. -/
  | star : c = '*' → r.head? ≠ some '*' → TokenAt declared c r (.symbol .operator "*") 0
  /-- Any other character that is a token by itself. -/
  | punctuation {kind : Symbol} : punctuation? c = some kind →
      TokenAt declared c r (.symbol kind (String.ofList [c])) 0
  /-- All the characters that a name can have, where they name something. -/
  | name {kind : Symbol} : isNameStart c = true →
      nameKind? declared (String.ofList ((c :: r).takeWhile isNameChar)) = some kind →
      TokenAt declared c r (.symbol kind (String.ofList ((c :: r).takeWhile isNameChar)))
        (((c :: r).takeWhile isNameChar).length - 1)

theorem tokenAt_of_lexeme (h : lexeme declared position c r = .ok (word, more)) :
    TokenAt declared c r word more := by
  unfold lexeme at h
  split at h
  · next hmantissa =>
    rw [number] at h
    split at h
    · cases h
    · next hcount =>
      split at h
      · next v hread =>
        cases h
        exact .number hmantissa (Nat.le_of_not_lt hcount) hread
      · cases h
  split at h
  · next hstar =>
    split at h
    · cases h
      exact .stars hstar rfl
    · next hne =>
      cases h
      refine .star hstar fun hhead => ?_
      obtain ⟨r', rfl⟩ := List.head?_eq_some_iff.mp hhead
      exact hne r' rfl
  split at h
  · next kind hkind =>
    cases h
    exact .punctuation hkind
  split at h
  · next hstart =>
    rw [name] at h
    split at h
    · next kind hkind =>
      cases h
      exact .name hstart hkind
    · cases h
  · cases h

/-- A mark of one character is no part of a number and no star. -/
theorem not_isMantissa_of_punctuation (h : punctuation? c = some kind) :
    isMantissa c = false ∧ c ≠ '*' := by
  unfold punctuation? at h
  split at h <;> first | exact ⟨by decide, by decide⟩ | cases h

theorem lexeme_of_tokenAt (h : TokenAt declared c r word more) :
    lexeme declared position c r = .ok (word, more) := by
  cases h with
  | number hmantissa hcount hread =>
    unfold lexeme
    rw [if_pos hmantissa, number]
    simp only [if_neg (Nat.not_lt.mpr hcount), hread]
  | stars hstar hhead =>
    obtain ⟨r', rfl⟩ := List.head?_eq_some_iff.mp hhead
    subst hstar
    rfl
  | star hstar hhead =>
    subst hstar
    unfold lexeme
    rw [if_neg (by decide), if_pos rfl]
    split
    · exact absurd rfl hhead
    · rfl
  | punctuation hkind =>
    obtain ⟨hmantissa, hstar⟩ := not_isMantissa_of_punctuation hkind
    unfold lexeme
    rw [if_neg (by simp [hmantissa]), if_neg hstar, hkind]
  | name hstart hkind =>
    rw [lexeme_of_isNameStart hstart, name]
    simp only [hkind]

/-- **The token at a character** is one of these kinds, wherever it stands. -/
theorem lexeme_eq_ok_iff :
    lexeme declared position c r = .ok (word, more) ↔ TokenAt declared c r word more :=
  ⟨tokenAt_of_lexeme, lexeme_of_tokenAt⟩

/-! ## No token -/

/-- **Why no token starts with a character.** -/
inductive Refused (declared : List String) (position : Nat) (c : Char) (r : List Char) :
    Error → Prop where
  /-- A mantissa with two points, whatever follows it. -/
  | points : isMantissa c = true → 1 < ((c :: r).takeWhile isMantissa).count '.' →
      Refused declared position c r
        (.invalidNumber (String.ofList ((c :: r).takeWhile isMantissa)) position)
  /-- A literal that writes no finite number. -/
  | literal : isMantissa c = true → ((c :: r).takeWhile isMantissa).count '.' ≤ 1 →
      Decimal.readFinite? (literal (c :: r)) = none →
      Refused declared position c r (.invalidNumber (String.ofList (literal (c :: r))) position)
  /-- All the characters that a name can have, where they name nothing. -/
  | name : isNameStart c = true →
      nameKind? declared (String.ofList ((c :: r).takeWhile isNameChar)) = none →
      Refused declared position c r (.unknownName (String.ofList ((c :: r).takeWhile isNameChar)))
  /-- A character that starts nothing. -/
  | character : isMantissa c = false → c ≠ '*' → punctuation? c = none → isNameStart c = false →
      Refused declared position c r (.invalidCharacter c position)

theorem refused_of_lexeme {e : Error} (h : lexeme declared position c r = .error e) :
    Refused declared position c r e := by
  unfold lexeme at h
  split at h
  · next hmantissa =>
    rw [number] at h
    split at h
    · next hcount =>
      cases h
      exact .points hmantissa hcount
    · next hcount =>
      split at h
      · cases h
      · next hread =>
        cases h
        exact .literal hmantissa (Nat.le_of_not_lt hcount) hread
  · next hmantissa =>
    split at h
    · split at h <;> cases h
    · next hstar =>
      split at h
      · cases h
      · next hkind =>
        split at h
        · next hstart =>
          rw [Scan.name] at h
          split at h
          · cases h
          · next hnone =>
            cases h
            exact .name hstart hnone
        · next hstart =>
          cases h
          exact .character (Bool.eq_false_iff.mpr hmantissa) hstar hkind
            (Bool.eq_false_iff.mpr hstart)

theorem lexeme_of_refused {e : Error} (h : Refused declared position c r e) :
    lexeme declared position c r = .error e := by
  cases h with
  | points hmantissa hcount =>
    unfold lexeme
    rw [if_pos hmantissa, number]
    exact if_pos hcount
  | literal hmantissa hcount hread =>
    unfold lexeme
    rw [if_pos hmantissa, number]
    simp only [if_neg (Nat.not_lt.mpr hcount), hread]
  | name hstart hnone =>
    rw [lexeme_of_isNameStart hstart, Scan.name]
    simp only [hnone]
  | character hmantissa hstar hkind hstart =>
    unfold lexeme
    rw [if_neg (by simp [hmantissa]), if_neg hstar, hkind]
    exact if_neg (by simp [hstart])

/-- **The error at a character** is one of these. -/
theorem lexeme_eq_error_iff {e : Error} :
    lexeme declared position c r = .error e ↔ Refused declared position c r e :=
  ⟨refused_of_lexeme, lexeme_of_refused⟩

/-! ## Names -/

/-- What a name stands for: a constant or a function whatever is declared, or a
variable where it is declared. -/
theorem nameKind?_cases {text : String} (h : nameKind? declared text = some kind) :
    (kind = .constantName ∧ (constant? text).isSome = true ∧
        ∀ declared', nameKind? declared' text = some .constantName) ∨
      (kind = .functionName ∧ (Builtin.ofName? text).isSome = true ∧
        ∀ declared', nameKind? declared' text = some .functionName) ∨
      (kind = .variableName ∧ text ∈ declared ∧ ∀ declared', nameKind? declared' text =
        if text ∈ declared' then some .variableName else none) := by
  rw [nameKind?] at h
  split at h
  · next hconstant =>
    cases h
    exact .inl ⟨rfl, hconstant, fun _ => if_pos hconstant⟩
  · next hconstant =>
    split at h
    · next hfunction =>
      cases h
      exact .inr (.inl ⟨rfl, hfunction, fun _ => by
        rw [nameKind?, if_neg hconstant, if_pos hfunction]⟩)
    · next hfunction =>
      split at h
      · next hdeclared =>
        cases h
        exact .inr (.inr ⟨rfl, hdeclared, fun _ => by
          rw [nameKind?, if_neg hconstant, if_neg hfunction]⟩)
      · cases h

/-- **What a token says stands for something:** a constant has a value, a function
is known, and a variable is declared. -/
def Resolved (declared : List String) : Lexeme → Prop
  | .symbol .constantName name => (constant? name).isSome = true
  | .symbol .functionName name => (Builtin.ofName? name).isSome = true
  | .symbol .variableName name => name ∈ declared
  | _ => True

theorem TokenAt.resolved (h : TokenAt declared c r word more) : Resolved declared word := by
  cases h with
  | number | stars | star => exact trivial
  | @punctuation kind hkind =>
    unfold punctuation? at hkind
    split at hkind <;> cases hkind <;> exact trivial
  | name _ hkind =>
    rcases nameKind?_cases hkind with ⟨rfl, h, -⟩ | ⟨rfl, h, -⟩ | ⟨rfl, h, -⟩ <;> exact h

/-! ## Other declared names -/

/-- The name of a variable that is not declared. -/
def undeclaredName? (declared : List String) : Lexeme → Option String
  | .symbol .variableName name => if name ∈ declared then none else some name
  | _ => none

/-- What is no variable, or a declared one, is the same token under other declared
names. -/
theorem TokenAt.redeclared (h : TokenAt declared c r word more)
    (hname : undeclaredName? declared' word = none) : TokenAt declared' c r word more := by
  cases h with
  | number hmantissa hcount hread => exact .number hmantissa hcount hread
  | stars hstar hhead => exact .stars hstar hhead
  | star hstar hhead => exact .star hstar hhead
  | punctuation hkind => exact .punctuation hkind
  | name hstart hkind =>
    refine .name hstart ?_
    rcases nameKind?_cases hkind with ⟨rfl, -, h⟩ | ⟨rfl, -, h⟩ | ⟨rfl, -, h⟩
    · exact h declared'
    · exact h declared'
    · rw [undeclaredName?] at hname
      rw [h declared']
      split at hname
      · next hmem => rw [if_pos hmem]
      · cases hname

/-- A variable that is not declared stands for nothing. -/
theorem lexeme_undeclared_name {text : String} (h : TokenAt declared c r word more)
    (hname : undeclaredName? declared' word = some text) :
    lexeme declared' position c r = .error (.unknownName text) := by
  cases h with
  | number | stars | star => cases hname
  | @punctuation kind hkind =>
    unfold punctuation? at hkind
    split at hkind <;> cases hkind <;> cases hname
  | name hstart hkind =>
    rcases nameKind?_cases hkind with ⟨rfl, -, -⟩ | ⟨rfl, -, -⟩ | ⟨rfl, -, h⟩
    · cases hname
    · cases hname
    · rw [undeclaredName?] at hname
      split at hname
      · cases hname
      · next hnot =>
        cases hname
        rw [lexeme_of_isNameStart hstart, name]
        simp only [h declared', if_neg hnot]

end Scan

end Reckon
