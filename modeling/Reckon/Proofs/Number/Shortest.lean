import Reckon.Proofs.Decimal.Exact
import Reckon.Proofs.Number.Text
/-!
# Number — the text of a result

The digits of a finite double read as its absolute value, whether they are the
fewest that do or all that it has (`toFloat_shortest`), and so do those of a
result that is a whole number (`whole?_eq_some`). So the text of a result is a
literal for the absolute value, with a minus below zero
(`exists_resultText_literal`).
-/

namespace Reckon

namespace Number

open Float.Model (UnpackedFloat)
open Float.Model.UnpackedFloat (Sign)
open Decimal

variable {v w : Float} {s : Sign} {m : Nat} {e : Int} {hm : 0 < m}

/-- Finite doubles that compare as equal are the same, but for zeros. -/
theorem eq_of_beq (h : w.toModel.unpack = .finite s m e hm) (heq : (v == w) = true) : v = w := by
  refine eq_of_unpack_eq ?_
  change UnpackedFloat.beq v.toModel.unpack w.toModel.unpack = true at heq
  rw [h] at heq ⊢
  cases hv : v.toModel.unpack with
  | notANumber => rw [hv] at heq; cases heq
  | infinity s' | zero s' => rw [hv] at heq; cases s' <;> cases s <;> cases heq
  | finite s' m' e' hm' =>
    rw [hv] at heq
    -- of one sign, it is the exponents and the mantissas that are compared
    have hsame (hs : s' = s) (hparts : e' = e ∧ m' = m) :
        UnpackedFloat.finite s' m' e' hm' = .finite s m e hm := by
      obtain ⟨rfl, rfl⟩ := hparts
      rw [hs]
    cases s' <;> cases s
    · simp only [UnpackedFloat.beq, UnpackedFloat.compare, beq_iff_eq, Option.some.injEq,
        Ordering.swap_eq_eq, Ordering.then_eq_eq, compare_eq_iff_eq] at heq
      exact hsame rfl heq
    · cases heq
    · cases heq
    · simp only [UnpackedFloat.beq, UnpackedFloat.compare, beq_iff_eq, Option.some.injEq,
        Ordering.then_eq_eq, compare_eq_iff_eq] at heq
      exact hsame rfl heq

/-- A finite double compares as equal with itself. -/
theorem beq_self (hv : v.isFinite = true) : (v == v) = true := by
  rcases cases_of_isFinite hv with rfl | rfl | ⟨s, m, e, hm, h⟩
  · rfl
  · rfl
  · change UnpackedFloat.beq v.toModel.unpack v.toModel.unpack = true
    rw [h]
    cases s <;> simp [UnpackedFloat.beq, UnpackedFloat.compare]

/-! ## The sign -/

theorem lt_zero_iff (h : v.toModel.unpack = .finite s m e hm) : v < 0 ↔ s = .negative := by
  have hzero : (0 : Float).toModel.unpack = .zero .positive := rfl
  have hlt : v < 0 ↔ UnpackedFloat.lt v.toModel.unpack (0 : Float).toModel.unpack = true := by
    change decide (v.toModel < (0 : Float).toModel) = true ↔ _
    rw [decide_eq_true_eq]
    rfl
  rw [hlt, h, hzero]
  cases s with
  | negative => exact iff_of_true rfl rfl
  | positive => exact iff_of_false nofun nofun

/-- Below zero a double is the opposite of its absolute value. -/
theorem neg_abs (hv : v.isFinite = true) (hlt : v < 0) : -v.abs = v := by
  rcases cases_of_isFinite hv with rfl | rfl | ⟨s, m, e, hm, h⟩
  · exact absurd hlt (by decide)
  · exact absurd hlt (by decide)
  · obtain rfl := (lt_zero_iff h).mp hlt
    exact eq_of_unpack_eq ((unpack_neg (unpack_abs h)).trans h.symm)

/-- Otherwise it is its absolute value, but for the negative zero. -/
theorem abs_beq (hv : v.isFinite = true) (hlt : ¬ v < 0) :
    (v.abs == v) = true ∧ (v ≠ -0.0 → v.abs = v) := by
  rcases cases_of_isFinite hv with rfl | rfl | ⟨s, m, e, hm, h⟩
  · exact ⟨rfl, fun _ => rfl⟩
  · exact ⟨rfl, fun hne => absurd rfl hne⟩
  · cases s with
    | negative => exact absurd ((lt_zero_iff h).mpr rfl) hlt
    | positive =>
      have habs : v.abs = v := eq_of_unpack_eq ((unpack_abs h).trans h.symm)
      refine ⟨?_, fun _ => habs⟩
      rw [habs]
      exact beq_self hv

/-! ## The digits -/

section Finite

variable (h : v.toModel.unpack = .finite s m e hm)

include h

/-- The sign has no say in the magnitude. -/
theorem magnitude_abs : magnitude v.abs = magnitude v := by
  rw [magnitude, magnitude, parts_of_unpack h, parts_of_unpack (unpack_abs h)]

/-- **The digits of a double read as its absolute value.** -/
theorem toFloat_shortest : (shortest v).toFloat = v.abs := by
  rw [shortest, toFloat_normalize]
  cases hfound : shortest? v with
  | none =>
    rw [Option.getD_none, ← magnitude_abs h]
    exact toFloat_exact (unpack_abs h)
  | some d => exact eq_of_beq (unpack_abs h) (toFloat_of_shortest? hfound)

/-- The integer part of a double is that of its magnitude, with its sign. -/
theorem truncInt_eq : truncInt v =
    s.apply (if 0 ≤ e then m * 2 ^ e.toNat else m / 2 ^ (-e).toNat : Nat) := by
  rw [truncInt, isNegative_of_unpack h]
  cases s with
  | negative =>
    rw [if_pos (by decide), ceilInt, parts_of_unpack h]
    by_cases he : 0 ≤ e <;> simp [Parts.signed, Sign.apply, he]
  | positive =>
    rw [if_neg (by decide), floorInt, parts_of_unpack h]
    by_cases he : 0 ≤ e <;> simp [Parts.signed, Sign.apply, he]

/-- **An integer is written by its digits,** with no fraction left. -/
theorem represents_truncInt (hv : isInteger v = true) :
    (⟨(truncInt v).natAbs, 0⟩ : Decimal).Represents m e := by
  have hwhole : 0 ≤ e ∨ m % 2 ^ (-e).toNat = 0 := by
    rw [isInteger, parts_of_unpack h] at hv
    simpa using (Bool.and_eq_true_iff.mp hv).2
  have habs : (truncInt v).natAbs =
      if 0 ≤ e then m * 2 ^ e.toNat else m / 2 ^ (-e).toNat := by
    rw [truncInt_eq h]
    cases s <;> simp only [Sign.apply] <;> omega
  rw [habs]
  by_cases he : 0 ≤ e
  · refine sameValue_of_scale (t := 0) (Int.le_refl 0) he ?_
    simp [he]
  · have hscales : (0 - e).toNat = (-e).toNat ∧ (e - e).toNat = 0 := by omega
    refine sameValue_of_scale (t := e) (by omega) (Int.le_refl e) ?_
    simp only [he, if_false, hscales.1, hscales.2]
    simpa using Nat.div_mul_cancel (Nat.dvd_of_mod_eq_zero (hwhole.resolve_left he))

/-- **The integer that a double is** reads as its absolute value, and has its sign. -/
theorem whole?_eq_some {n : Int} (hn : whole? v = some n) :
    (⟨n.natAbs, 0⟩ : Decimal).toFloat = v.abs ∧ (n < 0 ↔ s = .negative) := by
  obtain ⟨hv, rfl⟩ : isInteger v = true ∧ truncInt v = n := by
    rw [whole?] at hn
    split at hn
    · next hboth => exact ⟨(Bool.and_eq_true_iff.mp hboth).1, Option.some.inj hn⟩
    · cases hn
  obtain ⟨hc, he⟩ := canonical_of_unpack h
  have hrepresents := represents_truncInt h hv
  -- a double that is not zero has an integer part that is not
  have hpos : 0 < (truncInt v).natAbs := hrepresents.significand_pos hm
  refine ⟨eq_of_unpack_eq ?_, ?_⟩
  · rw [toFloat_of_represents hc he hrepresents, unpack_abs h]
  · rw [truncInt_eq h] at hpos ⊢
    cases s with
    | negative =>
      rw [Sign.apply] at hpos ⊢
      exact iff_of_true (by omega) rfl
    | positive =>
      rw [Sign.apply] at hpos ⊢
      exact iff_of_false (by omega) nofun

end Finite

/-! ## The text of a result -/

/-- What is neither whole nor zero is written with its digits. -/
theorem text_of_unpack (h : v.toModel.unpack = .finite s m e hm) : text v =
    String.ofList (if v < 0 then '-' :: Layout.full.render (shortest v)
      else Layout.full.render (shortest v)) := by
  have hnan : v.isNaN = false := by
    change v.toModel.unpack.isNaN = false
    rw [h]
    rfl
  have hinf : v.isInf = false := by
    change v.toModel.unpack.isInf = false
    rw [h]
    rfl
  have hzero : (v == 0) = false := by
    change UnpackedFloat.beq v.toModel.unpack (.zero .positive) = false
    rw [h]
    cases s <;> rfl
  rw [text, render, hnan, hinf, hzero, isNegative_of_unpack h]
  cases s with
  | negative => rw [if_pos ((lt_zero_iff h).mpr rfl)]; rfl
  | positive => rw [if_neg fun hlt => nomatch (lt_zero_iff h).mp hlt]; rfl

/-- **The text of a result is a literal** for its absolute value, with a minus below
zero. -/
theorem exists_resultText_literal (hv : v.isFinite = true) : ∃ digits d,
    resultText v = String.ofList (if v < 0 then '-' :: digits else digits) ∧
      ofLiteral? digits = some d ∧ d.toFloat = v.abs := by
  rcases cases_of_isFinite hv with rfl | rfl | ⟨s, m, e, hm, h⟩
  · exact ⟨['0'], ⟨0, 0⟩, by decide +kernel, rfl, rfl⟩
  · exact ⟨['0'], ⟨0, 0⟩, by decide +kernel, rfl, rfl⟩
  · rw [resultText]
    cases hwhole : whole? v with
    | some n =>
      obtain ⟨hvalue, hsign⟩ := whole?_eq_some h hwhole
      have hdigits : ∀ c ∈ Nat.toDigits 10 n.natAbs, isDigit c = true :=
        fun _ => isDigit_of_mem_toDigits
      have hread := ofLiteral?_digits hdigits Nat.toDigits_ne_nil (rfl : exponent? [] = _)
      rw [List.append_nil, natOfDigits_toDigits] at hread
      refine ⟨Nat.toDigits 10 n.natAbs, _, ?_, hread, hvalue⟩
      have hlt : n < 0 ↔ v < 0 := hsign.trans (lt_zero_iff h).symm
      change toString n = _
      rw [toString_eq]
      congr 1
      exact ite_congr (propext hlt) (fun _ => rfl) (fun _ => rfl)
    | none =>
      obtain ⟨d, hread, hnormal⟩ := ofLiteral?_render .full (shortest v)
      refine ⟨_, d, text_of_unpack h, hread, ?_⟩
      rw [toFloat_congr hnormal, toFloat_shortest h]

end Number

end Reckon
