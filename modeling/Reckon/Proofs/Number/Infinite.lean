import Reckon.Proofs.Number.Greatest
/-!
# Number — what is not finite

An infinity and NaN stay what they are beside a finite number (`add_eq_left`,
`sub_eq_left`), and nothing finite comes of them in a difference, in a product
or as a dividend. Between a value and itself there is no slope (`flat_self`),
and none over a step that is not finite (`flat_over`).
-/

namespace Reckon

namespace Number

open Float.Model (UnpackedFloat Format)
open Float.Model.UnpackedFloat

variable {u : UnpackedFloat} {v w x h : Float}

/-! ## Unpacked numbers -/

section Unpacked

variable (hu : u.isFinite = false)

include hu

/-- What is not finite is packed as it is. -/
theorem unpack_pack_of_not_isFinite : (Float.Model.pack u).unpack = u := by
  cases u with
  | zero | finite => cases hu
  | notANumber => rfl
  | infinity s => cases s <;> rfl

theorem unpacked_add_eq_left {u' : UnpackedFloat} (hu' : u'.isFinite = true) :
    UnpackedFloat.add Format.binary64 u u' = u := by
  cases u with
  | zero | finite => cases hu
  | notANumber => simp [UnpackedFloat.add]
  | infinity s => cases u' <;> simp_all [UnpackedFloat.add, UnpackedFloat.isFinite]

theorem unpacked_sub_eq_left {u' : UnpackedFloat} (hu' : u'.isFinite = true) :
    UnpackedFloat.sub Format.binary64 u u' = u := by
  cases u with
  | zero | finite => cases hu
  | notANumber => simp [UnpackedFloat.sub]
  | infinity s => cases u' <;> simp_all [UnpackedFloat.sub, UnpackedFloat.isFinite]

theorem unpacked_not_isFinite_sub (u' : UnpackedFloat) :
    (UnpackedFloat.sub Format.binary64 u u').isFinite = false := by
  cases u with
  | zero | finite => cases hu
  | notANumber => simp [UnpackedFloat.sub, UnpackedFloat.isFinite]
  | infinity s =>
    cases u' with
    -- two infinities: the difference is one of them, or NaN
    | infinity s' => cases s <;> cases s' <;> rfl
    | _ => simp [UnpackedFloat.sub, UnpackedFloat.isFinite]

theorem unpacked_not_isFinite_mul (u' : UnpackedFloat) :
    (UnpackedFloat.mul Format.binary64 u' u).isFinite = false := by
  cases u with
  | zero | finite => cases hu
  | notANumber | infinity s => cases u' <;> simp [UnpackedFloat.mul, UnpackedFloat.isFinite]

theorem unpacked_not_isFinite_div (u' : UnpackedFloat) :
    (UnpackedFloat.div Format.binary64 u u').isFinite = false := by
  cases u with
  | zero | finite => cases hu
  | notANumber | infinity s => cases u' <;> simp [UnpackedFloat.div, UnpackedFloat.isFinite]

/-- Over it all is zero, or no number. -/
theorem unpacked_div_cases (u' : UnpackedFloat) :
    (∃ s, UnpackedFloat.div Format.binary64 u' u = .zero s) ∨
      UnpackedFloat.div Format.binary64 u' u = .notANumber := by
  cases u with
  | zero | finite => cases hu
  | notANumber | infinity s => cases u' <;> simp [UnpackedFloat.div]

end Unpacked

/-! ## Doubles -/

/-- A double is as finite as what it was packed from, where that is not. -/
theorem not_isFinite_of_unpack (h : v.toModel.unpack = (Float.Model.pack u).unpack)
    (hu : u.isFinite = false) : v.isFinite = false := by
  rw [unpack_pack_of_not_isFinite hu] at h
  rw [← hu, ← h]
  rfl

theorem not_isFinite_sub (hv : v.isFinite = false) (w : Float) : (v - w).isFinite = false :=
  not_isFinite_of_unpack rfl (unpacked_not_isFinite_sub hv w.toModel.unpack)

theorem not_isFinite_mul (w : Float) (hv : v.isFinite = false) : (w * v).isFinite = false :=
  not_isFinite_of_unpack rfl (unpacked_not_isFinite_mul hv w.toModel.unpack)

theorem not_isFinite_div (hv : v.isFinite = false) (w : Float) : (v / w).isFinite = false :=
  not_isFinite_of_unpack rfl (unpacked_not_isFinite_div hv w.toModel.unpack)

/-- The size of what is not finite is infinite or no number. -/
theorem unpack_abs_cases (hv : v.isFinite = false) :
    v.abs.toModel.unpack = .infinity .positive ∨ v.abs.toModel.unpack = .notANumber := by
  change (Float.Model.pack v.toModel.unpack.abs).unpack = _ ∨
    (Float.Model.pack v.toModel.unpack.abs).unpack = _
  replace hv : v.toModel.unpack.isFinite = false := hv
  cases hu : v.toModel.unpack with
  | zero | finite => rw [hu] at hv; cases hv
  | notANumber => exact .inr rfl
  | infinity s => exact .inl (unpack_pack_of_not_isFinite (u := .infinity .positive) rfl)

theorem not_isFinite_abs (hv : v.isFinite = false) : v.abs.isFinite = false := by
  change v.abs.toModel.unpack.isFinite = false
  obtain h | h := unpack_abs_cases hv <;> rw [h] <;> rfl

/-- So it is below nothing. -/
theorem not_abs_lt (hv : v.isFinite = false) (w : Float) : ¬ v.abs < w := by
  intro hlt
  rw [lt_iff_unpack] at hlt
  obtain h | h := unpack_abs_cases hv <;> rw [h] at hlt
  · cases hw : w.toModel.unpack with
    | infinity s => rw [hw] at hlt; cases s <;> cases hlt
    | notANumber | zero | finite => rw [hw] at hlt; cases hlt
  · cases hlt

/-- **What is finite does not move it.** -/
theorem add_eq_left (hx : x.isFinite = false) (hh : h.isFinite = true) : x + h = x := by
  refine eq_of_unpack_eq ?_
  change (Float.Model.pack (UnpackedFloat.add Format.binary64 x.toModel.unpack
    h.toModel.unpack)).unpack = _
  rw [unpacked_add_eq_left hx hh, unpack_pack_of_not_isFinite hx]

theorem sub_eq_left (hx : x.isFinite = false) (hh : h.isFinite = true) : x - h = x := by
  refine eq_of_unpack_eq ?_
  change (Float.Model.pack (UnpackedFloat.sub Format.binary64 x.toModel.unpack
    h.toModel.unpack)).unpack = _
  rw [unpacked_sub_eq_left hx hh, unpack_pack_of_not_isFinite hx]

/-- **What is finite vanishes over an infinity.** -/
theorem unpack_div_infinity {s : Sign} (hv : v.isFinite = true)
    (hw : w.toModel.unpack = .infinity s) : ∃ s', (v / w).toModel.unpack = .zero s' := by
  change ∃ s', (Float.Model.pack (UnpackedFloat.div Format.binary64 v.toModel.unpack
    w.toModel.unpack)).unpack = .zero s'
  replace hv : v.toModel.unpack.isFinite = true := hv
  rw [hw]
  cases hu : v.toModel.unpack with
  | notANumber | infinity => rw [hu] at hv; cases hv
  | zero s' | finite s' =>
    rw [UnpackedFloat.div]
    cases s' <;> cases s <;> exact ⟨_, rfl⟩

/-- **There is no slope between a value and itself,** over whatever step. -/
theorem flat_self (hv : v.isFinite = true) (z : Float) :
    ((v - v) / z == 0 || !((v - v) / z).isFinite) = true := by
  rw [sub_self_of_isFinite hv]
  exact flat_of_unpack (unpack_zero_div z)

/-- **Nor is there one over a step that is not finite.** -/
theorem flat_over (v : Float) (hw : w.isFinite = false) :
    (v / w == 0 || !(v / w).isFinite) = true := by
  refine flat_of_unpack ?_
  change (∃ s, (Float.Model.pack (UnpackedFloat.div Format.binary64 v.toModel.unpack
    w.toModel.unpack)).unpack = .zero s) ∨ (Float.Model.pack (UnpackedFloat.div Format.binary64
      v.toModel.unpack w.toModel.unpack)).unpack = .notANumber
  obtain ⟨s, h⟩ | h := unpacked_div_cases hw v.toModel.unpack <;> rw [h]
  · cases s <;> exact .inl ⟨_, rfl⟩
  · exact .inr rfl

end Number

end Reckon
