import Reckon.Proofs.Decimal.Literal
/-!
# Decimal — decimals written out

A decimal is written out as its digits and its exponent. So written it is a
numeric literal for itself (`ofLiteral?_spelled`), and one token where no
digit follows it (`Scan.tokens_spelled`).
-/

namespace Reckon

namespace Decimal

/-- A decimal written out: `12e-3` for twelve thousandths. -/
def spelled (d : Decimal) : List Char :=
  d.digits ++ 'e' :: (if d.exponent < 0 then '-' else '+') :: Nat.toDigits 10 d.exponent.natAbs

theorem isDigit_of_mem_toDigits {n : Nat} {c : Char} (h : c ∈ Nat.toDigits 10 n) :
    isDigit c = true := by
  have hdigit := Nat.isDigit_of_mem_toDigits (by decide) (by decide) h
  rw [Char.isDigit, Bool.and_eq_true, decide_eq_true_eq, decide_eq_true_eq] at hdigit
  rw [isDigit, Bool.and_eq_true, decide_eq_true_eq, decide_eq_true_eq]
  exact hdigit

/-- The text of an integer is its digits, with a minus below zero. -/
theorem toString_eq (n : Int) : toString n =
    String.ofList
      (if n < 0 then '-' :: Nat.toDigits 10 n.natAbs else Nat.toDigits 10 n.natAbs) := by
  cases n with
  | ofNat n =>
    rw [if_neg (by simp)]
    rfl
  | negSucc n =>
    rw [if_pos (Int.negSucc_lt_zero n)]
    change "-" ++ Nat.repr (n + 1) = _
    rw [← String.toList_inj]
    simp only [String.toList_append, Nat.toList_repr, String.toList_ofList]
    rfl

/-- So it ends with a digit. -/
theorem exists_toString_eq_concat (n : Int) :
    ∃ before c, (toString n).toList = before ++ [c] ∧ isDigit c = true := by
  have hne : Nat.toDigits 10 n.natAbs ≠ [] := Nat.toDigits_ne_nil
  have hlast := List.dropLast_concat_getLast hne
  have hdigit : isDigit ((Nat.toDigits 10 n.natAbs).getLast hne) = true :=
    isDigit_of_mem_toDigits (List.getLast_mem hne)
  rw [toString_eq, String.toList_ofList]
  split
  · refine ⟨'-' :: (Nat.toDigits 10 n.natAbs).dropLast, _, ?_, hdigit⟩
    rw [List.cons_append, hlast]
  · exact ⟨_, _, hlast.symm, hdigit⟩

/-- What is written out starts with a digit. -/
theorem exists_spelled_eq_cons (d : Decimal) :
    ∃ c more, d.spelled = c :: more ∧ isDigit c = true := by
  obtain ⟨c, digits, hdigits⟩ : ∃ c digits, d.digits = c :: digits :=
    List.exists_cons_of_ne_nil Nat.toDigits_ne_nil
  refine ⟨c, _, by rw [spelled, hdigits, List.cons_append], ?_⟩
  exact isDigit_of_mem_toDigits (hdigits ▸ List.mem_cons_self)

/-- The digits of a number are taken up to what is none. -/
theorem takeWhile_toDigits (n : Nat) {rest : List Char} (h : rest.head?.any isDigit = false) :
    (Nat.toDigits 10 n ++ rest).takeWhile isDigit = Nat.toDigits 10 n :=
  takeWhile_digits (fun _ => isDigit_of_mem_toDigits) h

/-- The exponent is read back. -/
theorem exponent?_spelled (x : Int) :
    exponent? ('e' :: (if x < 0 then '-' else '+') :: Nat.toDigits 10 x.natAbs) = some x := by
  have hdigits : Nat.toDigits 10 x.natAbs ≠ [] ∧ (Nat.toDigits 10 x.natAbs).all isDigit = true :=
    ⟨Nat.toDigits_ne_nil, List.all_eq_true.mpr fun c => isDigit_of_mem_toDigits⟩
  have hvalue : natOfDigits (Nat.toDigits 10 x.natAbs) = x.natAbs := Nat.ofDigitChars_ten_toDigits
  -- the digits are those of the absolute value, and the sign decides which it belongs to
  generalize hn : x.natAbs = n at hdigits hvalue
  by_cases hx : x < 0
  · simp [exponent?, splitSign, hx, hdigits, hvalue]
    omega
  · simp [exponent?, splitSign, hx, hdigits, hvalue]
    omega

/-- **A decimal is read back as it is written out.** -/
theorem ofLiteral?_spelled (d : Decimal) : ofLiteral? d.spelled = some d := by
  have hvalue : natOfDigits d.digits = d.significand := Nat.ofDigitChars_ten_toDigits
  have hdigits : ∀ c ∈ d.digits, isDigit c = true := fun _ => isDigit_of_mem_toDigits
  rw [spelled, ofLiteral?_digits hdigits Nat.toDigits_ne_nil (exponent?_spelled d.exponent), hvalue]

/-- The exponent is taken whole where no digit follows it. -/
theorem exponentPart_spelled (x : Int) {rest : List Char} (h : rest.head?.any isDigit = false) :
    exponentPart ('e' :: (if x < 0 then '-' else '+') :: Nat.toDigits 10 x.natAbs ++ rest) =
      'e' :: (if x < 0 then '-' else '+') :: Nat.toDigits 10 x.natAbs := by
  have hdigits := takeWhile_toDigits x.natAbs h
  by_cases hx : x < 0 <;> simp [exponentPart, splitSign, hx, hdigits]

end Decimal

namespace Scan

open Decimal

variable {d : Decimal} {rest : List Char}

theorem isMantissa_of_mem_digits {c : Char} (h : c ∈ d.digits) : isMantissa c = true :=
  isMantissa_of_isDigit (isDigit_of_mem_toDigits h)

/-- The mantissa of a decimal that is written out is its digits. -/
theorem takeWhile_spelled : (d.spelled ++ rest).takeWhile isMantissa = d.digits := by
  rw [spelled, List.append_assoc, List.takeWhile_append_of_pos fun c => isMantissa_of_mem_digits,
    List.cons_append, List.takeWhile_cons_of_neg (by decide), List.append_nil]

/-- **A decimal that is written out is one literal,** where no digit follows. -/
theorem literal_spelled (h : rest.head?.any isDigit = false) :
    literal (d.spelled ++ rest) = d.spelled := by
  rw [literal, takeWhile_spelled, spelled, List.append_assoc,
    List.dropWhile_append_of_pos fun c => isMantissa_of_mem_digits, List.cons_append,
    List.dropWhile_cons_of_neg (by decide), ← List.cons_append]
  exact congrArg (d.digits ++ ·) (exponentPart_spelled d.exponent h)

/-- It is the number that it reads as. -/
theorem number_spelled (position : Nat) (hd : d.toFloat.isFinite = true)
    (h : rest.head?.any isDigit = false) :
    number position (d.spelled ++ rest) = .ok (.number d.toFloat, d.spelled.length - 1) := by
  have hpoints : d.digits.count '.' = 0 := count_point_digits fun _ => isDigit_of_mem_toDigits
  rw [number, takeWhile_spelled, hpoints]
  simp [literal_spelled h, readFinite?, ofLiteral?_spelled, hd]

/-- **It is one token,** where no digit follows. -/
theorem tokens_spelled (declared : List String) (position : Nat) (hd : d.toFloat.isFinite = true)
    (h : rest.head?.any isDigit = false) :
    tokens declared 0 position (d.spelled ++ rest) = (do
      let ts ← tokens declared 0 (position + d.spelled.length) rest
      return ⟨.number d.toFloat, position⟩ :: ts) := by
  obtain ⟨c, more, hspelled, hdigit⟩ := d.exists_spelled_eq_cons
  have hnumber := number_spelled position hd h
  rw [hspelled, List.cons_append, List.length_cons, Nat.add_sub_cancel] at hnumber
  have hmantissa := isMantissa_of_isDigit hdigit
  have hlexeme : lexeme declared position c (more ++ rest) = .ok (.number d.toFloat, more.length) :=
    (if_pos hmantissa).trans hnumber
  rw [hspelled, List.cons_append, tokens_cons (isBlank_of_isMantissa hmantissa) hlexeme,
    tokens_pass, List.length_cons, Nat.add_comm more.length, ← Nat.add_assoc]

end Scan

end Reckon
