import Reckon.Proofs.Token.Kinds
/-!
# Token — where a token ends

A token ends at a character that it cannot go on with, whatever stands from
there on (`lexeme_append`), and is there as well where the text is cut after it
(`TokenAt.cut`). A blank and a parenthesis go on with no token (`isSeparator`).
-/

namespace Reckon

namespace Scan

variable {declared : List String} {position : Nat} {c d : Char} {a b r : List Char}
  {word : Lexeme} {more : Nat}

/-! ## Characters of one class -/

/-- What a class takes of a text ends where a character is of another one. -/
theorem takeWhile_append_cons {p : Char → Bool} (hd : p d = false) :
    (a ++ d :: b).takeWhile p = a.takeWhile p := by
  induction a with
  | nil => rw [List.nil_append, List.takeWhile_cons_of_neg (by simp [hd]), List.takeWhile_nil]
  | cons c a ih => rw [List.cons_append, List.takeWhile_cons, List.takeWhile_cons, ih]

theorem dropWhile_append_cons {p : Char → Bool} (hd : p d = false) :
    (a ++ d :: b).dropWhile p = a.dropWhile p ++ d :: b := by
  induction a with
  | nil => rw [List.nil_append, List.dropWhile_cons_of_neg (by simp [hd]), List.dropWhile_nil,
      List.nil_append]
  | cons c a ih =>
    rw [List.cons_append, List.dropWhile_cons, List.dropWhile_cons, ih]
    split <;> rfl

/-- What a class takes of a text is there when the text is cut after it. -/
theorem takeWhile_cut {p : Char → Bool} (h : ((a ++ b).takeWhile p).length ≤ a.length) :
    (a ++ b).takeWhile p = a.takeWhile p := by
  induction a with
  | nil => exact List.eq_nil_of_length_eq_zero (Nat.le_zero.mp h)
  | cons c a ih =>
    rw [List.cons_append, List.takeWhile_cons] at h ⊢
    rw [List.takeWhile_cons]
    split
    · next hc =>
      rw [if_pos hc, List.length_cons, List.length_cons] at h
      rw [ih (Nat.le_of_succ_le_succ h)]
    · rfl

theorem dropWhile_cut {p : Char → Bool} (h : ((a ++ b).takeWhile p).length ≤ a.length) :
    (a ++ b).dropWhile p = a.dropWhile p ++ b := by
  have hwhole : (a ++ b).takeWhile p ++ (a ++ b).dropWhile p =
      a.takeWhile p ++ (a.dropWhile p ++ b) := by
    rw [List.takeWhile_append_dropWhile, ← List.append_assoc, List.takeWhile_append_dropWhile]
  rw [takeWhile_cut h] at hwhole
  exact List.append_cancel_left hwhole

/-! ## Numbers -/

/-- Whether no number goes on with a character. -/
def endsNumber (c : Char) : Bool :=
  !isMantissa c && c ≠ 'e' && c ≠ 'E' && c ≠ '+' && c ≠ '-'

theorem isMantissa_of_endsNumber (hd : endsNumber d = true) : isMantissa d = false := by
  simp only [endsNumber, Bool.and_eq_true] at hd
  simpa using hd.1.1.1.1

theorem isDigit_of_endsNumber (hd : endsNumber d = true) : Decimal.isDigit d = false := by
  have := isMantissa_of_endsNumber hd
  rw [isMantissa, Bool.or_eq_false_iff] at this
  exact this.1

theorem splitSign_join (s : List Char) :
    (Decimal.splitSign s).1 ++ (Decimal.splitSign s).2 = s := by
  unfold Decimal.splitSign
  split <;> rfl

/-- A sign is read from the first character. -/
theorem splitSign_cut (hne : a ≠ []) :
    Decimal.splitSign (a ++ b) = ((Decimal.splitSign a).1, (Decimal.splitSign a).2 ++ b) := by
  obtain ⟨c, a, rfl⟩ := List.exists_cons_of_ne_nil hne
  by_cases hplus : c = '+'
  · subst hplus
    rfl
  by_cases hminus : c = '-'
  · subst hminus
    rfl
  have hnone (s : List Char) : Decimal.splitSign (c :: s) = ([], c :: s) := by
    unfold Decimal.splitSign
    split
    · next heq => exact absurd (List.cons.inj heq).1 hplus
    · next heq => exact absurd (List.cons.inj heq).1 hminus
    · rfl
  rw [List.cons_append, hnone, hnone, List.cons_append]

theorem splitSign_append (hd : endsNumber d = true) :
    Decimal.splitSign (a ++ d :: b) =
      ((Decimal.splitSign a).1, (Decimal.splitSign a).2 ++ d :: b) := by
  cases a with
  | nil =>
    simp only [endsNumber, Bool.and_eq_true, decide_eq_true_eq] at hd
    unfold Decimal.splitSign
    simp only [List.nil_append]
    split
    · next heq => exact absurd (List.cons.inj heq).1 hd.1.2
    · next heq => exact absurd (List.cons.inj heq).1 hd.2
    · rfl
  | cons c a => exact splitSign_cut (List.cons_ne_nil c a)

/-- The exponent after a letter: nothing without a digit. -/
theorem exponentPart_cons (c : Char) (r : List Char) : Decimal.exponentPart (c :: r) =
    if (c = 'e' ∨ c = 'E') ∧ (Decimal.splitSign r).2.takeWhile Decimal.isDigit ≠ [] then
      c :: (Decimal.splitSign r).1 ++ (Decimal.splitSign r).2.takeWhile Decimal.isDigit
    else [] := by
  rw [Decimal.exponentPart]
  by_cases hletter : c = 'e' ∨ c = 'E'
  · rw [if_pos hletter]
    cases hdigits : (Decimal.splitSign r).2.takeWhile Decimal.isDigit with
    | nil =>
      rw [if_neg fun h => h.2 rfl]
      simp only [hdigits]
    | cons d digits =>
      rw [if_pos ⟨hletter, List.cons_ne_nil d digits⟩]
      simp only [hdigits]
  · rw [if_neg hletter, if_neg fun h => hletter h.1]

theorem exponentPart_append (hd : endsNumber d = true) :
    Decimal.exponentPart (a ++ d :: b) = Decimal.exponentPart a := by
  cases a with
  | nil =>
    simp only [endsNumber, Bool.and_eq_true, decide_eq_true_eq] at hd
    have he : ¬ (d = 'e' ∨ d = 'E') := fun h => h.elim hd.1.1.1.2 hd.1.1.2
    change Decimal.exponentPart (d :: b) = []
    rw [Decimal.exponentPart, if_neg he]
  | cons c a =>
    rw [List.cons_append, Decimal.exponentPart, Decimal.exponentPart, splitSign_append hd]
    simp only [takeWhile_append_cons (isDigit_of_endsNumber hd)]

theorem literal_append (hd : endsNumber d = true) : literal (a ++ d :: b) = literal a := by
  have hm := isMantissa_of_endsNumber hd
  rw [literal, literal, takeWhile_append_cons hm, dropWhile_append_cons hm, exponentPart_append hd]

/-- **A number ends** where a character follows that it does not go on with. -/
theorem number_append (hd : endsNumber d = true) :
    number position (a ++ d :: b) = number position a := by
  rw [number, number, literal_append hd, takeWhile_append_cons (isMantissa_of_endsNumber hd)]

/-- An exponent is there when the text is cut after it. -/
theorem exponentPart_cut (h : (Decimal.exponentPart (a ++ b)).length ≤ a.length) :
    Decimal.exponentPart (a ++ b) = Decimal.exponentPart a := by
  cases a with
  | nil => exact List.eq_nil_of_length_eq_zero (Nat.le_zero.mp h)
  | cons c a =>
    rw [List.cons_append, exponentPart_cons] at h ⊢
    rw [exponentPart_cons]
    by_cases hletter : c = 'e' ∨ c = 'E'
    · simp only [hletter, true_and] at h ⊢
      by_cases hne : a = []
      -- without a character after the letter there is no exponent
      · subst hne
        split at h
        · next hdigits =>
          have hlength := List.length_pos_iff.mpr hdigits
          simp only [List.nil_append, List.cons_append, List.length_append, List.length_cons,
            List.length_nil] at h hlength
          omega
        · next hdigits =>
          rw [if_neg hdigits]
          rfl
      · rw [splitSign_cut hne] at h ⊢
        have hsplit := congrArg List.length (splitSign_join a)
        rw [List.length_append] at hsplit
        have hdigits : (((Decimal.splitSign a).2 ++ b).takeWhile Decimal.isDigit).length ≤
            (Decimal.splitSign a).2.length := by
          split at h
          · simp only [List.cons_append, List.length_append, List.length_cons] at h
            omega
          · next hnone => rw [Decidable.not_not.mp hnone]; exact Nat.zero_le _
        rw [takeWhile_cut hdigits]
    · simp only [hletter, false_and, if_false]

/-- A literal is there when the text is cut after it. -/
theorem literal_cut (h : (literal (a ++ b)).length ≤ a.length) :
    literal (a ++ b) = literal a ∧ (a ++ b).takeWhile isMantissa = a.takeWhile isMantissa := by
  rw [literal, List.length_append] at h
  have hmantissa : ((a ++ b).takeWhile isMantissa).length ≤ a.length := by omega
  have hparts := congrArg List.length (List.takeWhile_append_dropWhile (p := isMantissa) (l := a))
  rw [List.length_append] at hparts
  rw [takeWhile_cut hmantissa, dropWhile_cut hmantissa] at h
  refine ⟨?_, takeWhile_cut hmantissa⟩
  rw [literal, literal, takeWhile_cut hmantissa, dropWhile_cut hmantissa,
    exponentPart_cut (by omega)]

/-- An exponent is at the start of its text. -/
theorem exponentPart_starts (s : List Char) : Decimal.exponentPart s <+: s := by
  cases s with
  | nil => exact List.prefix_rfl
  | cons c s =>
    rw [exponentPart_cons]
    split
    · have hjoin := splitSign_join s
      rw [List.cons_append, List.prefix_cons_inj]
      calc (Decimal.splitSign s).1 ++ (Decimal.splitSign s).2.takeWhile Decimal.isDigit
        _ <+: (Decimal.splitSign s).1 ++ (Decimal.splitSign s).2 :=
          (List.prefix_append_right_inj _).mpr (List.takeWhile_prefix _)
        _ = s := hjoin
    · exact List.nil_prefix

/-- So is a literal. -/
theorem literal_starts (s : List Char) : literal s <+: s := by
  calc literal s
    _ <+: s.takeWhile isMantissa ++ s.dropWhile isMantissa :=
      (List.prefix_append_right_inj _).mpr (exponentPart_starts _)
    _ = s := List.takeWhile_append_dropWhile

/-! ## Tokens -/

/-- **A token ends** where what follows it is not part of it: no number goes on
with it, it does not double a star, and a name takes no more of it. -/
theorem lexeme_append (hd : endsNumber d = true) (hstar : d ≠ '*')
    (hname : isNameStart c = true →
      (c :: a ++ d :: b).takeWhile isNameChar = (c :: a).takeWhile isNameChar) :
    lexeme declared position c (a ++ d :: b) = lexeme declared position c a := by
  unfold lexeme
  split
  · rw [← List.cons_append, number_append hd]
  split
  · cases a with
    | nil =>
      simp only [List.nil_append]
      split
      · next heq => exact absurd (List.cons.inj heq).1 hstar
      · rfl
    | cons e a =>
      simp only [List.cons_append]
      split
      · next heq =>
        obtain ⟨rfl, -⟩ := List.cons.inj heq
        rfl
      · next hne =>
        split
        · next heq => exact absurd (congrArg (· ++ d :: b) heq) (hne _)
        · rfl
  split
  · rfl
  · split
    · next hstart =>
      rw [name, name, ← List.cons_append, hname hstart]
    · rfl

/-- The characters of a token after the first are among those that follow it. -/
theorem TokenAt.more_le (h : TokenAt declared c r word more) : more ≤ r.length := by
  cases h with
  | number =>
    have hlength := (literal_starts (c :: r)).length_le
    rw [List.length_cons] at hlength
    omega
  | stars _ hhead =>
    obtain ⟨r', rfl⟩ := List.head?_eq_some_iff.mp hhead
    simp
  | star | punctuation => exact Nat.zero_le _
  | name =>
    have hlength := (List.takeWhile_sublist (l := c :: r) isNameChar).length_le
    rw [List.length_cons] at hlength
    omega

/-- **A token is there when the text is cut after it.** -/
theorem TokenAt.cut (h : TokenAt declared c (a ++ b) word more) (hmore : more ≤ a.length) :
    TokenAt declared c a word more := by
  cases h with
  | number hmantissa hcount hread =>
    have hlength : (literal (c :: a ++ b)).length ≤ (c :: a).length := by
      rw [List.length_cons, List.cons_append]
      omega
    obtain ⟨hliteral, htaken⟩ := literal_cut hlength
    rw [List.cons_append] at hliteral htaken
    rw [hliteral] at hread ⊢
    rw [htaken] at hcount
    exact .number hmantissa hcount hread
  | stars hstar hhead =>
    obtain ⟨d, a, rfl⟩ := List.exists_cons_of_length_pos hmore
    exact .stars hstar hhead
  | star hstar hhead =>
    refine .star hstar fun hhead' => hhead ?_
    rw [List.head?_append, hhead']
    rfl
  | punctuation hkind => exact .punctuation hkind
  | name hstart hkind =>
    have hlength : ((c :: a ++ b).takeWhile isNameChar).length ≤ (c :: a).length := by
      rw [List.length_cons, List.cons_append]
      omega
    have htaken := takeWhile_cut hlength
    rw [List.cons_append] at htaken
    rw [htaken] at hkind ⊢
    exact .name hstart hkind

/-! ## Separators -/

/-- Whether a character goes on with no token. -/
def isSeparator (c : Char) : Bool :=
  endsNumber c && !isNameChar c && c ≠ '*'

/-- A blank goes on with no token. -/
theorem isSeparator_of_isBlank (hb : Text.isBlank c = true) : isSeparator c = true := by
  -- none of the characters that go on with a token is blank, nor is any range of them
  have hcodes : ∀ d ∈ ['.', 'e', 'E', '+', '-', '*', 'π'], c ≠ d := by
    rintro d hd rfl
    have hnone : ['.', 'e', 'E', '+', '-', '*', 'π'].all (!Text.isBlank ·) = true := rfl
    have hblank := List.all_eq_true.mp hnone c hd
    rw [hb] at hblank
    cases hblank
  have hrange : c.toNat ≤ 32 ∨ 122 < c.toNat := by
    simp only [Text.isBlank, Bool.or_eq_true, Bool.and_eq_true, decide_eq_true_eq, beq_iff_eq] at hb
    omega
  have hbetween (low high : Char) (hlow : 32 < low.toNat) (hhigh : high.toNat ≤ 122) :
      (low ≤ c && c ≤ high) = false := by
    rw [Bool.and_eq_false_iff, decide_eq_false_iff_not, decide_eq_false_iff_not]
    rcases hrange with hc | hc
    · refine .inl fun hle => ?_
      have : low.toNat ≤ c.toNat := hle
      omega
    · refine .inr fun hle => ?_
      have : c.toNat ≤ high.toNat := hle
      omega
  have hdigit : Decimal.isDigit c = false := hbetween '0' '9' (by decide) (by decide)
  have hname : isNameStart c = false := by
    rw [isNameStart, hbetween 'a' 'z' (by decide) (by decide),
      hbetween 'A' 'Z' (by decide) (by decide)]
    simpa using hcodes 'π' (by decide)
  simp only [List.mem_cons, List.not_mem_nil, or_false, forall_eq_or_imp, forall_eq] at hcodes
  simp [isSeparator, endsNumber, isMantissa, isNameChar, hdigit, hname, hcodes]

/-- No token starts with a blank, nor a mantissa. -/
theorem isBlank_of_isMantissa (h : isMantissa c = true) : Text.isBlank c = false := by
  rw [Bool.eq_false_iff]
  intro hb
  have hseparator := isSeparator_of_isBlank hb
  rw [isSeparator, endsNumber, h] at hseparator
  cases hseparator

end Scan

end Reckon
