import Reckon.Proofs.Decimal.Normal
import Reckon.Proofs.Decimal.Spelling
/-!
# Number — texts that read back

Every layout writes a decimal as a literal for the same number
(`ofLiteral?_render`): positional notation may add zeros at the end and a point,
and an exponent may be filled up with zeros, but the normal form stays.
-/

namespace Reckon

namespace Number

open Decimal

variable {digits : List Char}

/-! ## Zeros -/

theorem isDigit_of_mem_zeros {n : Nat} {c : Char} (h : c ∈ zeros n) : isDigit c = true := by
  rw [List.eq_of_mem_replicate h]
  rfl

/-- Zeros in front do not count. -/
theorem natOfDigits_zeros_append (n : Nat) (s : List Char) :
    natOfDigits (zeros n ++ s) = natOfDigits s := by
  rw [natOfDigits, natOfDigits, zeros, Nat.ofDigitChars_append, Nat.ofDigitChars_replicate_zero,
    Nat.mul_zero]

/-- Zeros at the end multiply by ten. -/
theorem natOfDigits_append_zeros (s : List Char) (n : Nat) :
    natOfDigits (s ++ zeros n) = natOfDigits s * 10 ^ n := by
  rw [natOfDigits, natOfDigits, zeros, Nat.ofDigitChars_append, Nat.ofDigitChars_replicate_zero,
    Nat.mul_comm]

theorem natOfDigits_toDigits (n : Nat) : natOfDigits (Nat.toDigits 10 n) = n :=
  Nat.ofDigitChars_ten_toDigits

/-! ## Exponents -/

section Exponent

variable (wide : Bool) (e : Int)

/-- The sign that an exponent is written with. -/
def exponentSign : List Char :=
  if e < 0 then ['-'] else if wide then ['+'] else []

/-- The digits that an exponent is written with. -/
def exponentDigits : List Char :=
  (if wide then zeros (2 - (Nat.toDigits 10 e.natAbs).length) else []) ++ Nat.toDigits 10 e.natAbs

theorem exponentText_eq : exponentText wide e = exponentSign wide e ++ exponentDigits wide e := by
  rw [exponentText, exponentSign, exponentDigits, List.append_assoc]

theorem exponentSign_eq_iff : exponentSign wide e = ['-'] ↔ e < 0 := by
  rw [exponentSign]
  by_cases hneg : e < 0
  · simp [hneg]
  · cases wide <;> simp [hneg]

theorem natOfDigits_exponentDigits : natOfDigits (exponentDigits wide e) = e.natAbs := by
  cases wide with
  | true => rw [exponentDigits, if_pos rfl, natOfDigits_zeros_append, natOfDigits_toDigits]
  | false => exact natOfDigits_toDigits e.natAbs

theorem isDigit_of_mem_exponentDigits {c : Char} (h : c ∈ exponentDigits wide e) :
    isDigit c = true := by
  rcases List.mem_append.mp h with hc | hc
  · cases wide with
    | true => exact isDigit_of_mem_zeros hc
    | false => cases hc
  · exact isDigit_of_mem_toDigits hc

theorem exponentDigits_ne_nil : exponentDigits wide e ≠ [] :=
  fun h => Nat.toDigits_ne_nil (List.append_eq_nil_iff.mp h).2

/-- Nothing but the sign is taken for it. -/
theorem splitSign_exponentText :
    splitSign (exponentText wide e) = (exponentSign wide e, exponentDigits wide e) := by
  have hdigits := fun c => isDigit_of_mem_exponentDigits wide e (c := c)
  rw [exponentText_eq, exponentSign]
  split
  · rfl
  · cases wide with
    | true => rfl
    | false => exact splitSign_of_digits hdigits

/-- **An exponent is read back,** however it is written. -/
theorem exponent?_exponentText : exponent? ('e' :: exponentText wide e) = some e := by
  have hall := List.all_eq_true.mpr fun c => isDigit_of_mem_exponentDigits wide e (c := c)
  rw [exponent?_cons, splitSign_exponentText, if_pos ⟨.inl rfl, exponentDigits_ne_nil wide e, hall⟩]
  simp only [exponentSign_eq_iff, natOfDigits_exponentDigits]
  congr 1
  split <;> omega

end Exponent

/-! ## Layouts -/

section Positional

variable (hdigits : ∀ c ∈ digits, isDigit c = true) (hne : digits ≠ [])

include hdigits

/-- Zeros between the point and the digits count down the exponent. -/
theorem ofLiteral?_leading (n : Nat) : ofLiteral? ('0' :: '.' :: zeros n ++ digits) =
    some ⟨natOfDigits digits, -(n + digits.length : Nat)⟩ := by
  have hwhole : ∀ c ∈ ['0'], isDigit c = true := List.forall_mem_singleton.mpr rfl
  have hfraction : ∀ c ∈ zeros n ++ digits, isDigit c = true := by
    intro c hc
    exact (List.mem_append.mp hc).elim isDigit_of_mem_zeros (hdigits c)
  have hread := ofLiteral?_point hwhole (List.cons_ne_nil '0' []) hfraction (rfl : exponent? [] = _)
  rw [List.append_nil] at hread
  refine hread.trans ?_
  have hvalue : natOfDigits (['0'] ++ (zeros n ++ digits)) = natOfDigits digits := by
    rw [← List.append_assoc]
    exact natOfDigits_zeros_append (n + 1) digits
  have hlength : (zeros n ++ digits).length = n + digits.length := by
    rw [List.length_append, zeros, List.length_replicate]
  rw [hvalue, hlength, Int.zero_sub]

include hne

/-- Zeros after the digits multiply by ten, and so does the one after a point. -/
theorem ofLiteral?_trailing (keepPoint : Bool) (n : Nat) : ∃ k : Nat,
    ofLiteral? (digits ++ zeros n ++ if keepPoint then ['.', '0'] else []) =
      some ⟨natOfDigits digits * 10 ^ k, (n : Int) - k⟩ := by
  have hwhole : ∀ c ∈ digits ++ zeros n, isDigit c = true := by
    intro c hc
    exact (List.mem_append.mp hc).elim (hdigits c) isDigit_of_mem_zeros
  have hwhole' : digits ++ zeros n ≠ [] := fun hnil => hne (List.append_eq_nil_iff.mp hnil).1
  cases keepPoint with
  | true =>
    have hfraction : ∀ c ∈ ['0'], isDigit c = true := List.forall_mem_singleton.mpr rfl
    have hread := ofLiteral?_point hwhole hwhole' hfraction (rfl : exponent? [] = _)
    refine ⟨n + 1, hread.trans ?_⟩
    have hvalue : natOfDigits (digits ++ zeros n ++ ['0']) = natOfDigits digits * 10 ^ (n + 1) := by
      rw [← natOfDigits_append_zeros, List.append_assoc, zeros, zeros, List.replicate_succ']
    rw [hvalue, List.length_singleton]
    congr 2
    omega
  | false =>
    have hread := ofLiteral?_digits hwhole hwhole' (rfl : exponent? [] = _)
    refine ⟨n, hread.trans ?_⟩
    rw [natOfDigits_append_zeros, Int.sub_self]

/-- A point among the digits counts those after it. -/
theorem ofLiteral?_parted {n : Nat} (hn : 0 < n) (hlength : n ≤ digits.length) :
    ofLiteral? (digits.take n ++ '.' :: digits.drop n) =
      some ⟨natOfDigits digits, (n : Int) - digits.length⟩ := by
  have htake : ∀ c ∈ digits.take n, isDigit c = true :=
    fun c hc => hdigits c (List.mem_of_mem_take hc)
  have hdrop : ∀ c ∈ digits.drop n, isDigit c = true :=
    fun c hc => hdigits c (List.mem_of_mem_drop hc)
  have htake' : digits.take n ≠ [] := by
    intro hnil
    rcases List.take_eq_nil_iff.mp hnil with hzero | hnil
    · omega
    · exact hne hnil
  have hread := ofLiteral?_point htake htake' hdrop (rfl : exponent? [] = _)
  rw [List.append_nil] at hread
  refine hread.trans ?_
  rw [List.take_append_drop, List.length_drop]
  congr 2
  omega

end Positional

/-- Positional notation is read back, with the zeros that it adds. -/
theorem ofLiteral?_positional (keepPoint : Bool) (m : Nat) (x : Int) : ∃ k : Nat,
    ofLiteral? (positional keepPoint (Nat.toDigits 10 m) (x + (Nat.toDigits 10 m).length)) =
      some ⟨m * 10 ^ k, x - k⟩ := by
  have hdigits : ∀ c ∈ Nat.toDigits 10 m, isDigit c = true := fun _ => isDigit_of_mem_toDigits
  have hne : Nat.toDigits 10 m ≠ [] := Nat.toDigits_ne_nil
  have hvalue := natOfDigits_toDigits m
  generalize Nat.toDigits 10 m = digits at hdigits hne hvalue
  rw [positional]
  split
  · next hpoint =>
    refine ⟨0, (ofLiteral?_leading hdigits _).trans ?_⟩
    rw [hvalue, Nat.pow_zero, Nat.mul_one]
    congr 2
    omega
  · next hpoint =>
    simp only
    split
    · next hshort =>
      obtain ⟨k, hread⟩ := ofLiteral?_trailing hdigits hne keepPoint
        ((x + (digits.length : Int)).toNat - digits.length)
      refine ⟨k, hread.trans ?_⟩
      rw [hvalue]
      congr 2
      omega
    · next hlong =>
      refine ⟨0, (ofLiteral?_parted hdigits hne (by omega) (by omega)).trans ?_⟩
      rw [hvalue, Nat.pow_zero, Nat.mul_one]
      congr 2
      omega

/-- So is a notation with an exponent. -/
theorem ofLiteral?_scientific (wide : Bool) (m : Nat) (x : Int) :
    ofLiteral? (scientific wide (Nat.toDigits 10 m) (x + (Nat.toDigits 10 m).length - 1)) =
      some ⟨m, x⟩ := by
  have hdigits : ∀ c ∈ Nat.toDigits 10 m, isDigit c = true := fun _ => isDigit_of_mem_toDigits
  have hvalue := natOfDigits_toDigits m
  have hne : Nat.toDigits 10 m ≠ [] := Nat.toDigits_ne_nil
  generalize Nat.toDigits 10 m = digits at hdigits hne hvalue
  obtain ⟨first, rest, rfl⟩ := List.exists_cons_of_ne_nil hne
  have hexponent := exponent?_exponentText wide (x + ((first :: rest).length : Int) - 1)
  have hfirst : ∀ c ∈ [first], isDigit c = true := by
    intro c hc
    exact hdigits c (List.mem_singleton.mp hc ▸ List.mem_cons_self)
  cases rest with
  | nil =>
    refine (ofLiteral?_digits hfirst hne hexponent).trans ?_
    rw [hvalue]
    congr 2
    simp only [List.length_singleton]
    omega
  | cons second rest =>
    have hrest : ∀ c ∈ second :: rest, isDigit c = true :=
      fun c hc => hdigits c (List.mem_cons_of_mem first hc)
    refine (ofLiteral?_point hfirst (List.cons_ne_nil first []) hrest hexponent).trans ?_
    rw [List.singleton_append, hvalue]
    congr 2
    simp only [List.length_cons]
    omega

/-- **Every layout writes a literal for the same number.** -/
theorem ofLiteral?_render (layout : Layout) (d : Decimal) :
    ∃ d', ofLiteral? (layout.render d) = some d' ∧ d'.normalize = d.normalize := by
  rw [Layout.render]
  split
  · obtain ⟨k, hread⟩ := ofLiteral?_positional layout.keepPoint d.significand d.exponent
    refine ⟨_, ?_, normalize_mul_pow d.significand k d.exponent⟩
    rw [← hread, digits, Int.ofNat_eq_natCast, Int.sub_add_cancel]
  · exact ⟨d, ofLiteral?_scientific layout.wideExponent d.significand d.exponent, rfl⟩

end Number

end Reckon
