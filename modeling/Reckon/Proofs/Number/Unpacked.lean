import Mathlib
import Reckon.Number.Parts
/-!
# Number — doubles taken apart

A double unpacks to a zero, an infinity, no number, or a sign, a mantissa and
an exponent. The mantissas and exponents that come up are the canonical ones
(`canonical_of_unpack`), each of them is packed without loss unless it is too
large (`unpack_pack`), and what a double unpacks to determines it
(`eq_of_unpack_eq`).
-/

namespace Reckon

namespace Number

open Float.Model (UnpackedFloat Format)
open Float.Model.UnpackedFloat

/-- **Mantissas and exponents in canonical form:** at most 53 bits, and all of
them in use unless the exponent is the least. -/
structure Canonical (m : Nat) (e : Int) : Prop where
  pos : 0 < m
  lt : m < 2 ^ 53
  least : -1074 ≤ e
  normal : 2 ^ 52 ≤ m ∨ e = -1074

/-! ## The fields of the bits -/

/-- The fields as numbers. -/
theorem toNat_unpackExponent (b : BitVec 64) :
    (@unpackExponent .binary64 b).toNat = b.toNat / 2 ^ 52 % 2 ^ 11 := by
  simp [unpackExponent, Nat.shiftRight_eq_div_pow]

theorem toNat_unpackMantissa (b : BitVec 64) :
    (@unpackMantissa .binary64 b).toNat = b.toNat % 2 ^ 52 := by
  simp [unpackMantissa]

theorem toNat_unpackSign (b : BitVec 64) :
    (@unpackSign .binary64 b).toNat = b.toNat / 2 ^ 63 := by
  have := b.isLt
  simp [unpackSign, Nat.shiftRight_eq_div_pow]
  omega

/-- The mantissa of a normal double has a first bit that is not stored. -/
theorem toNat_implicit (mantissa : BitVec 52) :
    (1#1 ++ mantissa).toNat = 2 ^ 52 + mantissa.toNat := by
  rw [BitVec.toNat_append, ← Nat.shiftLeft_add_eq_or_of_lt mantissa.isLt]
  simp [Nat.shiftLeft_eq]

/-- What the fields of a double stand for. -/
def ofFields (s : Sign) (exponent : BitVec 11) (mantissa : BitVec 52) : UnpackedFloat :=
  if exponent = -1#11 then
    if mantissa = 0#52 then .infinity s else .notANumber
  else if exponent = 0#11 then
    if h : mantissa = 0#52 then .zero s
    else .finite s mantissa.toNat (-1074)
      (Nat.pos_of_ne_zero fun h' => h (BitVec.eq_of_toNat_eq h'))
  else .finite s (1#1 ++ mantissa).toNat (exponent.toNat - 1075)
    (by have := toNat_implicit mantissa; omega)

theorem unpack_eq_ofFields (b : BitVec 64) :
    unpack Format.binary64 b =
      ofFields (.ofBitVec (@unpackSign .binary64 b))
        (@unpackExponent .binary64 b)
        (@unpackMantissa .binary64 b) := by
  rw [unpack, ofFields]
  simp only
  split
  · rfl
  · split
    · next h =>
      split
      · rfl
      · congr 1
        rw [h]
        rfl
    · rfl

theorem unpack_packComponents (s : Sign) (exponent : BitVec 11) (mantissa : BitVec 52) :
    unpack Format.binary64 (packComponents Format.binary64 s exponent mantissa) =
      ofFields s exponent mantissa := by
  rw [unpack_eq_ofFields, unpackSign_packComponents, unpackExponent_packComponents,
    unpackMantissa_packComponents]
  cases s <;> rfl

/-! ## Finite doubles -/

theorem canonical_of_ofFields {s s' : Sign} {exponent : BitVec 11} {mantissa : BitVec 52} {m : Nat}
    {e : Int} {hm : 0 < m} (h : ofFields s exponent mantissa = .finite s' m e hm) :
    Canonical m e ∧ e ≤ 971 := by
  have hmantissa : mantissa.toNat < 2 ^ 52 := mantissa.isLt
  have hexponent : exponent.toNat < 2 ^ 11 := exponent.isLt
  rw [ofFields] at h
  split at h
  · split at h <;> cases h
  · next hlast =>
    have hlast' : exponent.toNat ≠ 2047 := fun h' => hlast (BitVec.eq_of_toNat_eq h')
    split at h
    · split at h
      · cases h
      · simp only [UnpackedFloat.finite.injEq] at h
        obtain ⟨-, rfl, rfl⟩ := h
        exact ⟨⟨hm, by omega, by omega, .inr rfl⟩, by omega⟩
    · next hfirst =>
      have hfirst' : exponent.toNat ≠ 0 := fun h' => hfirst (BitVec.eq_of_toNat_eq h')
      have himplicit := toNat_implicit mantissa
      simp only [UnpackedFloat.finite.injEq] at h
      obtain ⟨-, rfl, rfl⟩ := h
      exact ⟨⟨hm, by omega, by omega, .inl (by omega)⟩, by omega⟩

/-- The exponent field of a mantissa and an exponent. -/
def exponentField (m : Nat) (e : Int) : BitVec 11 :=
  if 2 ^ 52 ≤ m then BitVec.ofNat 11 (e + 1075).toNat else 0#11

variable {s : Sign} {m : Nat} {e : Int}

theorem pack_finite (hc : Canonical m e) (he : e ≤ 971) :
    pack Format.binary64 (.finite s m e hc.pos) =
      packComponents Format.binary64 s (exponentField m e) (BitVec.ofNat 52 m) := by
  obtain ⟨hpos, hlt, hleast, hnormal⟩ := hc
  -- the bias and the format compute, but not for omega
  have hbiased : e + (Format.binary64.exponentBias : Int) + (52 : Nat) = e + 1075 := by
    change e + 1023 + 52 = e + 1075
    omega
  have hfits : ¬ 2 ^ Format.binary64.exponentBits ≤ (e + 1075).toNat + 1 := by
    change ¬ 2 ^ 11 ≤ (e + 1075).toNat + 1
    omega
  have hlog : m.log2 + 1 = Format.binary64.mantissaBits ↔ 2 ^ 52 ≤ m := by
    have := Nat.le_log2 (k := 52) hpos.ne'
    have := Nat.log2_lt (k := 53) hpos.ne'
    change m.log2 + 1 = 53 ↔ _
    omega
  rw [pack, exponentField]
  simp only [hbiased, hlog, if_neg hfits]
  split <;> rfl

/-- A finite double that is too large is packed as an infinity. -/
theorem pack_large (hc : Canonical m e) (he : 971 < e) :
    pack Format.binary64 (.finite s m e hc.pos) =
      packComponents Format.binary64 s (-1#11) 0#52 := by
  have hbiased : e + (Format.binary64.exponentBias : Int) + (52 : Nat) = e + 1075 := by
    change e + 1023 + 52 = e + 1075
    omega
  have hlarge : 2 ^ Format.binary64.exponentBits ≤ (e + 1075).toNat + 1 := by
    change 2 ^ 11 ≤ (e + 1075).toNat + 1
    omega
  rw [pack]
  simp only [hbiased, if_pos hlarge]
  rfl

/-- The fields of a mantissa and an exponent stand for them. -/
theorem ofFields_exponentField (hc : Canonical m e) (he : e ≤ 971) :
    ofFields s (exponentField m e) (BitVec.ofNat 52 m) = .finite s m e hc.pos := by
  obtain ⟨hpos, hlt, hleast, hnormal⟩ := hc
  rw [exponentField]
  split
  -- a normal double: its exponent is stored, and the first bit of its mantissa is not
  · next hm =>
    have hexponent : (BitVec.ofNat 11 (e + 1075).toNat).toNat = (e + 1075).toNat := by
      rw [BitVec.toNat_ofNat, Nat.mod_eq_of_lt (by omega)]
    have hlast : BitVec.ofNat 11 (e + 1075).toNat ≠ -1#11 := by
      intro h
      have := congrArg BitVec.toNat h
      rw [hexponent] at this
      have hlast : (-1#11).toNat = 2047 := rfl
      omega
    have hfirst : BitVec.ofNat 11 (e + 1075).toNat ≠ 0#11 := by
      intro h
      have := congrArg BitVec.toNat h
      rw [hexponent, BitVec.toNat_zero] at this
      omega
    have hmantissa : (1#1 ++ BitVec.ofNat 52 m).toNat = m := by
      rw [toNat_implicit, BitVec.toNat_ofNat]
      omega
    simp only [ofFields, if_neg hlast, if_neg hfirst, hmantissa, hexponent]
    congr 1
    omega
  · next hm =>
    have hmantissa : (BitVec.ofNat 52 m).toNat = m := by
      rw [BitVec.toNat_ofNat, Nat.mod_eq_of_lt (by omega)]
    have hzero : BitVec.ofNat 52 m ≠ 0#52 := by
      intro h
      have := congrArg BitVec.toNat h
      rw [hmantissa, BitVec.toNat_zero] at this
      omega
    simp only [ofFields, dif_neg hzero, hmantissa]
    rw [if_neg (by decide), if_pos trivial]
    congr 1
    omega

/-- **A finite double is packed without loss,** unless it is too large. -/
theorem unpack_pack (hc : Canonical m e) :
    (Float.Model.pack (.finite s m e hc.pos)).unpack =
      if e ≤ 971 then .finite s m e hc.pos else .infinity s := by
  change unpack Format.binary64 (pack Format.binary64 (.finite s m e hc.pos)) = _
  split
  · next he => rw [pack_finite hc he, unpack_packComponents, ofFields_exponentField hc he]
  · next he =>
    rw [pack_large hc (by omega), unpack_packComponents]
    rfl

/-! ## All doubles -/

/-- A mantissa and an exponent come from their fields only. -/
theorem fields_of_finite {s' : Sign} {exponent : BitVec 11} {mantissa : BitVec 52} {hm : 0 < m}
    (h : ofFields s' exponent mantissa = .finite s m e hm) :
    s' = s ∧ exponentField m e = exponent ∧ BitVec.ofNat 52 m = mantissa := by
  have hmantissa : mantissa.toNat < 2 ^ 52 := mantissa.isLt
  rw [ofFields] at h
  split at h
  · split at h <;> cases h
  · split at h
    · next hfirst =>
      split at h
      · cases h
      · simp only [UnpackedFloat.finite.injEq] at h
        obtain ⟨rfl, rfl, rfl⟩ := h
        rw [exponentField, if_neg (by omega), hfirst, BitVec.ofNat_toNat, BitVec.setWidth_eq]
        exact ⟨rfl, rfl, rfl⟩
    · simp only [UnpackedFloat.finite.injEq] at h
      obtain ⟨rfl, rfl, rfl⟩ := h
      have himplicit := toNat_implicit mantissa
      rw [exponentField, if_pos (by omega)]
      refine ⟨rfl, BitVec.eq_of_toNat_eq ?_, BitVec.eq_of_toNat_eq ?_⟩
      · have := exponent.isLt
        rw [BitVec.toNat_ofNat]
        omega
      · rw [BitVec.toNat_ofNat, himplicit]
        omega

/-- What a double unpacks to is packed as the double. -/
theorem pack_unpack (v : Float.Model) : Float.Model.pack v.unpack = v := by
  -- the bits of a double are valid: it has one NaN only
  have hbits := UnpackedFloat.pack_unpack_of_valid v.valid
  obtain ⟨bits, hvalid⟩ := v
  rw [Float.Model.pack]
  congr 1
  exact UInt64.toBitVec_inj.mp hbits

/-- **What a double unpacks to determines it.** -/
theorem eq_of_unpack_eq {v w : Float} (h : v.toModel.unpack = w.toModel.unpack) : v = w := by
  have hbits := (UnpackedFloat.unpack_inj_of_valid v.toModel.valid w.toModel.valid).mp h
  exact Float.toBits_inj.mp (UInt64.toBitVec_inj.mp hbits)

/-- **A finite double has a mantissa and an exponent in canonical form.** -/
theorem canonical_of_unpack {v : Float.Model} {hm : 0 < m} (h : v.unpack = .finite s m e hm) :
    Canonical m e ∧ e ≤ 971 := by
  rw [Float.Model.unpack, unpack_eq_ofFields] at h
  exact canonical_of_ofFields h

variable {v : Float} {hm : 0 < m}

/-- Without its sign it has the same mantissa and exponent. -/
theorem unpack_abs (h : v.toModel.unpack = .finite s m e hm) :
    v.abs.toModel.unpack = .finite .positive m e hm := by
  obtain ⟨hc, he⟩ := canonical_of_unpack h
  change (Float.Model.pack v.toModel.unpack.abs).unpack = _
  rw [h, UnpackedFloat.abs, unpack_pack hc, if_pos he]

/-- And with the other sign. -/
theorem unpack_neg (h : v.toModel.unpack = .finite s m e hm) :
    (-v).toModel.unpack = .finite (-s) m e hm := by
  obtain ⟨hc, he⟩ := canonical_of_unpack h
  change (Float.Model.pack v.toModel.unpack.neg).unpack = _
  rw [h, UnpackedFloat.neg, unpack_pack hc, if_pos he]

/-- **A finite double is a zero, or has a mantissa and an exponent.** -/
theorem cases_of_isFinite (hv : v.isFinite = true) :
    v = 0.0 ∨ v = -0.0 ∨ ∃ s m e hm, v.toModel.unpack = .finite s m e hm := by
  replace hv : v.toModel.unpack.isFinite = true := hv
  cases h : v.toModel.unpack with
  | notANumber | infinity => rw [h] at hv; cases hv
  | zero s =>
    cases s with
    | positive => exact .inl (eq_of_unpack_eq h)
    | negative => exact .inr (.inl (eq_of_unpack_eq h))
  | finite s m e hm => exact .inr (.inr ⟨s, m, e, hm, rfl⟩)

/-- What is finite is so without its sign. -/
theorem isFinite_abs (hv : v.isFinite = true) : v.abs.isFinite = true := by
  rcases cases_of_isFinite hv with rfl | rfl | ⟨s, m, e, hm, h⟩
  · rfl
  · rfl
  · change v.abs.toModel.unpack.isFinite = true
    rw [unpack_abs h]
    rfl

/-- The sign of a finite double is the first of its bits. -/
theorem isNegative_of_unpack (h : v.toModel.unpack = .finite s m e hm) :
    isNegative v = (s == .negative) := by
  rw [Float.Model.unpack, unpack_eq_ofFields] at h
  obtain ⟨hsign, -, -⟩ := fields_of_finite h
  have hbit := toNat_unpackSign v.toModel.toBits.toBitVec
  have hshift : (v.toBits >>> 63).toNat = v.toModel.toBits.toBitVec.toNat / 2 ^ 63 := by
    rw [UInt64.toNat_shiftRight, Nat.shiftRight_eq_div_pow]
    rfl
  rw [← hshift] at hbit
  rcases BitVec.eq_zero_or_eq_one (@unpackSign .binary64 v.toModel.toBits.toBitVec) with hb | hb
  · rw [hb] at hsign hbit
    have hzero : v.toBits >>> 63 = 0 := UInt64.toNat_inj.mp hbit.symm
    rw [isNegative, hzero, ← hsign]
    rfl
  · rw [hb] at hsign hbit
    have hone : v.toBits >>> 63 = 1 := UInt64.toNat_inj.mp hbit.symm
    rw [isNegative, hone, ← hsign]
    rfl

/-- **The parts of a finite double** are its sign, mantissa and exponent. -/
theorem parts_of_unpack (h : v.toModel.unpack = .finite s m e hm) :
    parts v = ⟨s == .negative, m, e⟩ := by
  have hnegative := isNegative_of_unpack h
  obtain ⟨⟨hpos, hlt, hleast, hnormal⟩, hgreatest⟩ := canonical_of_unpack h
  rw [Float.Model.unpack, unpack_eq_ofFields] at h
  obtain ⟨-, hexponent, hmantissa⟩ := fields_of_finite h
  have hbiased := toNat_unpackExponent v.toModel.toBits.toBitVec
  have hfraction := toNat_unpackMantissa v.toModel.toBits.toBitVec
  rw [← hexponent] at hbiased
  rw [← hmantissa, BitVec.toNat_ofNat] at hfraction
  -- the fields are read off the same bits, here by shifts and there by slices
  have hbits : v.toBits.toNat = v.toModel.toBits.toBitVec.toNat := rfl
  rw [parts]
  simp only [Nat.pow_eq, hbits, ← hbiased, ← hfraction, hnegative]
  rw [exponentField]
  split
  · next hfull =>
    have hexponent' : (BitVec.ofNat 11 (e + 1075).toNat).toNat = (e + 1075).toNat := by
      rw [BitVec.toNat_ofNat, Nat.mod_eq_of_lt (by omega)]
    rw [hexponent', if_neg (by omega), Parts.mk.injEq, Int.ofNat_eq_natCast]
    exact ⟨rfl, by omega, by omega⟩
  · next hshort =>
    rw [if_pos (BitVec.toNat_zero ..), Parts.mk.injEq]
    exact ⟨rfl, by omega, by omega⟩

end Number

end Reckon
