import Reckon.Proofs.Token.Text
/-!
# Decimal — literals taken apart

A literal is a whole part, a fraction after a point, and an exponent, and it is
read part by part (`ofLiteral?_digits`, `ofLiteral?_point`). What is a literal by
itself is one token (`Scan.spells_literal`), since each part ends where the next
one starts.
-/

namespace Reckon

namespace Decimal

variable {s digits whole fraction exponent rest : List Char} {d : Decimal} {e : Int}

/-! ## The parts -/

/-- Digits are taken up to what is none. -/
theorem takeWhile_digits (hdigits : ∀ c ∈ digits, isDigit c = true)
    (h : rest.head?.any isDigit = false) : (digits ++ rest).takeWhile isDigit = digits := by
  rw [List.takeWhile_append_of_pos hdigits]
  cases rest with
  | nil => rw [List.takeWhile_nil, List.append_nil]
  | cons c rest => rw [List.takeWhile_cons_of_neg (by simpa using h), List.append_nil]

theorem dropWhile_digits (hdigits : ∀ c ∈ digits, isDigit c = true)
    (h : rest.head?.any isDigit = false) : (digits ++ rest).dropWhile isDigit = rest := by
  rw [List.dropWhile_append_of_pos hdigits]
  cases rest with
  | nil => rfl
  | cons c rest => rw [List.dropWhile_cons_of_neg (by simpa using h)]

/-- A digit is no sign. -/
theorem splitSign_of_digits (h : ∀ c ∈ digits, isDigit c = true) :
    splitSign digits = ([], digits) := by
  unfold splitSign
  split
  · exact absurd (h '+' List.mem_cons_self) (by decide)
  · exact absurd (h '-' List.mem_cons_self) (by decide)
  · rfl

/-- The exponent after a letter. -/
theorem exponent?_cons (c : Char) (s : List Char) : exponent? (c :: s) =
    if (c = 'e' ∨ c = 'E') ∧ (splitSign s).2 ≠ [] ∧ (splitSign s).2.all isDigit then
      some (if (splitSign s).1 = ['-'] then -(natOfDigits (splitSign s).2 : Int)
        else natOfDigits (splitSign s).2)
    else none :=
  rfl

/-- An exponent starts with its letter. -/
theorem exponent_cases (h : exponent? s = some e) :
    s = [] ∨ ∃ c rest, s = c :: rest ∧ (c = 'e' ∨ c = 'E') := by
  cases s with
  | nil => exact .inl rfl
  | cons c rest =>
    rw [exponent?_cons] at h
    split at h
    · next hletter => exact .inr ⟨c, rest, rfl, hletter.1⟩
    · cases h

/-- So the digits before it end there. -/
theorem head?_exponent (h : exponent? s = some e) : s.head?.any isDigit = false := by
  rcases exponent_cases h with rfl | ⟨c, rest, rfl, rfl | rfl⟩ <;> rfl

theorem splitFraction_exponent (h : exponent? s = some e) : splitFraction s = ([], s) := by
  rcases exponent_cases h with rfl | ⟨c, rest, rfl, rfl | rfl⟩ <;> rfl

/-- A fraction is split off after a point, and else there is none. -/
theorem splitFraction_cases (s : List Char) :
    (∃ fraction rest, s = '.' :: fraction ++ rest ∧ (∀ c ∈ fraction, isDigit c = true) ∧
      splitFraction s = (fraction, rest)) ∨ splitFraction s = ([], s) := by
  unfold splitFraction
  split
  · next rest =>
    refine .inl ⟨_, _, ?_, List.all_eq_true.mp List.all_takeWhile, rfl⟩
    rw [List.cons_append, List.takeWhile_append_dropWhile]
  · exact .inr rfl

/-- **What is an exponent by itself is taken whole.** -/
theorem exponentPart_exponent (h : exponent? s = some e) : exponentPart s = s := by
  cases s with
  | nil => rfl
  | cons c rest =>
    rw [exponent?_cons] at h
    split at h
    · next hexponent =>
      obtain ⟨hletter, hne, hdigits⟩ := hexponent
      have hend : ([] : List Char).head?.any isDigit = false := rfl
      have htaken := takeWhile_digits (List.all_eq_true.mp hdigits) hend
      rw [List.append_nil] at htaken
      have hjoin := Scan.splitSign_join rest
      rw [exponentPart, if_pos hletter]
      simp only [htaken]
      rw [List.cons_append, hjoin]
    · cases h

/-! ## Reading the parts -/

/-- Digits and an exponent are read as they stand. -/
theorem ofLiteral?_digits (hwhole : ∀ c ∈ whole, isDigit c = true) (hne : whole ≠ [])
    (he : exponent? exponent = some e) :
    ofLiteral? (whole ++ exponent) = some ⟨natOfDigits whole, e⟩ := by
  have hend := head?_exponent he
  simp only [ofLiteral?, takeWhile_digits hwhole hend, dropWhile_digits hwhole hend,
    splitFraction_exponent he, hne, false_and, if_false, he, Option.map_some, List.append_nil]
  simp

/-- **The digits after a point count down the exponent,** where there is any digit. -/
theorem ofLiteral?_mantissa (hwhole : ∀ c ∈ whole, isDigit c = true)
    (hfraction : ∀ c ∈ fraction, isDigit c = true) (he : exponent? exponent = some e) :
    ofLiteral? (whole ++ '.' :: (fraction ++ exponent)) =
      if whole = [] ∧ fraction = [] then none
      else some ⟨natOfDigits (whole ++ fraction), e - fraction.length⟩ := by
  have hend := head?_exponent he
  have hpoint : ('.' :: (fraction ++ exponent)).head?.any isDigit = false := rfl
  have hsplit : splitFraction ('.' :: (fraction ++ exponent)) = (fraction, exponent) := by
    rw [splitFraction, takeWhile_digits hfraction hend, dropWhile_digits hfraction hend]
  simp only [ofLiteral?, takeWhile_digits hwhole hpoint, dropWhile_digits hwhole hpoint, hsplit,
    he, Option.map_some, Int.ofNat_eq_natCast]

theorem ofLiteral?_point (hwhole : ∀ c ∈ whole, isDigit c = true) (hne : whole ≠ [])
    (hfraction : ∀ c ∈ fraction, isDigit c = true) (he : exponent? exponent = some e) :
    ofLiteral? (whole ++ '.' :: (fraction ++ exponent)) =
      some ⟨natOfDigits (whole ++ fraction), e - fraction.length⟩ :=
  (ofLiteral?_mantissa hwhole hfraction he).trans (if_neg fun h => hne h.1)

end Decimal

namespace Scan

open Decimal

variable {s rest : List Char} {d : Decimal}

theorem count_point_digits {digits : List Char} (h : ∀ c ∈ digits, isDigit c = true) :
    digits.count '.' = 0 :=
  List.count_eq_zero.mpr fun hpoint => absurd (h '.' hpoint) (by decide)

section Mantissa

variable {whole fraction : List Char} (hwhole : ∀ c ∈ whole, isDigit c = true)
  (hfraction : ∀ c ∈ fraction, isDigit c = true)

include hwhole

/-- Digits are a mantissa without a point. -/
theorem mantissa_digits : (∀ c ∈ whole, isMantissa c = true) ∧ whole.count '.' ≤ 1 :=
  ⟨fun c hc => isMantissa_of_isDigit (hwhole c hc), by rw [count_point_digits hwhole]; omega⟩

include hfraction

/-- A point between digits is the only one. -/
theorem mantissa_point : (∀ c ∈ whole ++ '.' :: fraction, isMantissa c = true) ∧
    (whole ++ '.' :: fraction).count '.' ≤ 1 := by
  constructor
  · intro c hc
    rcases List.mem_append.mp hc with hc | hc
    · exact isMantissa_of_isDigit (hwhole c hc)
    rcases List.mem_cons.mp hc with rfl | hc
    · rfl
    · exact isMantissa_of_isDigit (hfraction c hc)
  · refine Nat.le_of_eq ?_
    rw [List.count_append, List.count_cons_self, count_point_digits hwhole,
      count_point_digits hfraction]

end Mantissa

/-- **A literal is a mantissa and an exponent,** with one point at most and some
character in the mantissa. -/
theorem exists_mantissa (h : ofLiteral? s = some d) : ∃ mantissa exponent,
    s = mantissa ++ exponent ∧ mantissa ≠ [] ∧ (∀ c ∈ mantissa, isMantissa c = true) ∧
      mantissa.count '.' ≤ 1 ∧ ∃ e, exponent? exponent = some e := by
  have hjoin : s.takeWhile isDigit ++ s.dropWhile isDigit = s := List.takeWhile_append_dropWhile
  have hwhole : ∀ c ∈ s.takeWhile isDigit, isDigit c = true :=
    List.all_eq_true.mp List.all_takeWhile
  rw [ofLiteral?] at h
  generalize s.takeWhile isDigit = whole at h hjoin hwhole
  generalize s.dropWhile isDigit = after at h hjoin
  subst hjoin
  rcases splitFraction_cases after with ⟨fraction, rest, rfl, hfraction, hsplit⟩ | hsplit
  · simp only [hsplit] at h
    split at h
    · cases h
    · obtain ⟨e, he, -⟩ := Option.map_eq_some_iff.mp h
      obtain ⟨hmantissa, hcount⟩ := mantissa_point hwhole hfraction
      exact ⟨whole ++ '.' :: fraction, rest, (List.append_assoc ..).symm, by simp, hmantissa,
        hcount, e, he⟩
  · simp only [hsplit] at h
    split at h
    · cases h
    · next hne =>
      obtain ⟨e, he, -⟩ := Option.map_eq_some_iff.mp h
      obtain ⟨hmantissa, hcount⟩ := mantissa_digits hwhole
      exact ⟨whole, after, rfl, fun hnil => hne ⟨hnil, trivial⟩, hmantissa, hcount, e, he⟩

/-- The letter of an exponent ends the mantissa before it. -/
theorem takeWhile_mantissa {mantissa exponent : List Char} {e : Int}
    (hmantissa : ∀ c ∈ mantissa, isMantissa c = true) (he : exponent? exponent = some e) :
    (mantissa ++ exponent).takeWhile isMantissa = mantissa := by
  have hend : exponent.takeWhile isMantissa = [] := by
    rcases exponent_cases he with rfl | ⟨c, rest, rfl, rfl | rfl⟩ <;> rfl
  rw [List.takeWhile_append_of_pos hmantissa, hend, List.append_nil]

theorem dropWhile_mantissa {mantissa exponent : List Char} {e : Int}
    (hmantissa : ∀ c ∈ mantissa, isMantissa c = true) (he : exponent? exponent = some e) :
    (mantissa ++ exponent).dropWhile isMantissa = exponent := by
  have hend : exponent.dropWhile isMantissa = exponent := by
    rcases exponent_cases he with rfl | ⟨c, rest, rfl, rfl | rfl⟩ <;> rfl
  rw [List.dropWhile_append_of_pos hmantissa, hend]

section Literal

variable (h : ofLiteral? s = some d)

include h

/-- The mantissa that the scanner takes is that of the literal. -/
theorem takeWhile_literal : (s.takeWhile isMantissa).count '.' ≤ 1 ∧ literal s = s ∧
    ∃ c more, s = c :: more ∧ isMantissa c = true := by
  obtain ⟨mantissa, exponent, rfl, hne, hmantissa, hcount, e, he⟩ := exists_mantissa h
  have htaken := takeWhile_mantissa hmantissa he
  obtain ⟨c, more, rfl⟩ := List.exists_cons_of_ne_nil hne
  refine ⟨by rw [htaken]; exact hcount, ?_, c, more ++ exponent, rfl,
    hmantissa c List.mem_cons_self⟩
  rw [literal, htaken, dropWhile_mantissa hmantissa he, exponentPart_exponent he]

/-- What is a literal by itself is the number that it reads as. -/
theorem number_literal (position : Nat) (hd : d.toFloat.isFinite = true) :
    number position s = .ok (.number d.toFloat, s.length - 1) := by
  obtain ⟨hcount, hliteral, -⟩ := takeWhile_literal h
  rw [number, if_neg (Nat.not_lt.mpr hcount), hliteral]
  simp only [readFinite?, h, hd, if_true]

/-- **What is a literal by itself is one token.** -/
theorem spells_literal (declared : List String) (hd : d.toFloat.isFinite = true) :
    Spells declared s [.number d.toFloat] := by
  intro position
  have hnumber := number_literal h position hd
  obtain ⟨-, -, c, more, rfl, hc⟩ := takeWhile_literal h
  have hlexeme : lexeme declared position c more = .ok (.number d.toFloat, more.length) :=
    (if_pos hc).trans hnumber
  refine ⟨[⟨.number d.toFloat, position⟩], ?_, rfl⟩
  have hpass := tokens_pass (r := []) declared more (position + 1)
  rw [List.append_nil] at hpass
  rw [tokens_cons (isBlank_of_isMantissa hc) hlexeme, hpass]
  rfl

end Literal

end Scan

end Reckon
