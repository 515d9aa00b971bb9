import Reckon.Quantity
/-!
# Number — numbers above zero

A double above zero is neither below zero nor at most zero. The order of the
doubles is no order on all of them, so this is read off what a double is
made of: an infinity, a zero, a finite number, or no number.
-/

namespace Reckon

namespace Number

variable {v w : Float}

/-- The order of doubles compares what they unpack to. -/
theorem lt_iff_unpack : v < w ↔ v.toModel.unpack.compare w.toModel.unpack = some .lt := by
  have hlt : v < w ↔ decide (v.toModel < w.toModel) = true := Iff.rfl
  rw [hlt, decide_eq_true_iff]
  exact beq_iff_eq

theorem le_iff_unpack :
    v ≤ w ↔ (v.toModel.unpack.compare w.toModel.unpack).any (·.isLE) = true := by
  have hle : v ≤ w ↔ decide (v.toModel ≤ w.toModel) = true := Iff.rfl
  rw [hle, decide_eq_true_iff]
  exact Iff.rfl

/-- What the comparison with zero makes of a double that zero is less than. -/
theorem unpack_of_pos (h : 0 < v) : v.toModel.unpack = .infinity .positive ∨
    ∃ m e hm, v.toModel.unpack = .finite .positive m e hm := by
  have hzero : (0 : Float).toModel.unpack = .zero .positive := rfl
  rw [lt_iff_unpack, hzero] at h
  cases hv : v.toModel.unpack with
  | infinity s =>
    cases s with
    | positive => exact .inl rfl
    | negative => rw [hv] at h; cases h
  | notANumber => rw [hv] at h; cases h
  | zero s => rw [hv] at h; cases h
  | finite s m e hm =>
    cases s with
    | positive => exact .inr ⟨m, e, hm, rfl⟩
    | negative => rw [hv] at h; cases h

theorem not_le_zero (h : 0 < v) : ¬ v ≤ 0 := by
  intro hle
  rw [le_iff_unpack] at hle
  obtain hv | ⟨m, e, hm, hv⟩ := unpack_of_pos h <;> rw [hv] at hle <;> cases hle

theorem not_lt_zero (h : 0 < v) : ¬ v < 0 := by
  intro hlt
  rw [lt_iff_unpack] at hlt
  obtain hv | ⟨m, e, hm, hv⟩ := unpack_of_pos h <;> rw [hv] at hlt <;> cases hlt

end Number

end Reckon
