import Reckon.Builtin
import Reckon.Proofs.Number.Order
/-!
# Builtin — which argument the greatest and the least are

A function of many arguments walks over them and keeps the best so far. What it ends with is the
leftmost of the arguments that no other surpasses (`isLeftmost_extremal`): which of two zeros is
kept hangs on their order, but the number does not (`applyNamed_extremal`). An argument that is no
number, wherever it stands, leaves no number.
-/

namespace Reckon

namespace Variadic

open Number (place lt_iff_place_lt beq_iff_place_eq)

variable {f : Variadic} {x y v w first : Float} {args args' rest : List Float}

/-! ## The better of two numbers -/

/-- **One number surpasses another** in the direction of the function. -/
def Surpasses : Variadic → Float → Float → Prop
  | max, x, y => y < x
  | min, x, y => x < y

theorem replaces_eq_true_iff : f.replaces x y = true ↔ f.Surpasses y x := by
  cases f <;> exact decide_eq_true_iff

section Numbers

variable (hx : x.isNaN = false) (hy : y.isNaN = false)

include hx hy

/-- The places of the numbers decide. -/
theorem surpasses_max_iff : max.Surpasses x y ↔ place y < place x :=
  lt_iff_place_lt hy hx

theorem surpasses_min_iff : min.Surpasses x y ↔ place x < place y :=
  lt_iff_place_lt hx hy

theorem Surpasses.asymm (h : f.Surpasses x y) : ¬ f.Surpasses y x := by
  cases f with
  | max =>
    rw [surpasses_max_iff hx hy] at h
    rw [surpasses_max_iff hy hx]
    exact lt_asymm h
  | min =>
    rw [surpasses_min_iff hx hy] at h
    rw [surpasses_min_iff hy hx]
    exact lt_asymm h

/-- What surpasses a number surpasses all that does not. -/
theorem Surpasses.of_not (hv : v.isNaN = false) (h : f.Surpasses x v) (h' : ¬ f.Surpasses y v) :
    f.Surpasses x y := by
  cases f with
  | max =>
    rw [surpasses_max_iff hx hv] at h
    rw [surpasses_max_iff hy hv] at h'
    rw [surpasses_max_iff hx hy]
    exact (not_lt.mp h').trans_lt h
  | min =>
    rw [surpasses_min_iff hx hv] at h
    rw [surpasses_min_iff hy hv] at h'
    rw [surpasses_min_iff hx hy]
    exact h.trans_le (not_lt.mp h')

/-- Numbers of which neither surpasses the other are equal. -/
theorem beq_of_not_surpasses (h : ¬ f.Surpasses x y) (h' : ¬ f.Surpasses y x) :
    (x == y) = true := by
  rw [beq_iff_place_eq hx hy]
  cases f with
  | max =>
    rw [surpasses_max_iff hx hy] at h
    rw [surpasses_max_iff hy hx] at h'
    exact le_antisymm (not_lt.mp h) (not_lt.mp h')
  | min =>
    rw [surpasses_min_iff hx hy] at h
    rw [surpasses_min_iff hy hx] at h'
    exact le_antisymm (not_lt.mp h') (not_lt.mp h)

end Numbers

theorem not_surpasses_self (hx : x.isNaN = false) : ¬ f.Surpasses x x :=
  fun h => h.asymm hx hx h

/-! ## The leftmost unsurpassed argument -/

/-- **The leftmost of the arguments that no other surpasses:** each one before it is surpassed. -/
structure IsLeftmost (f : Variadic) (args : List Float) (v : Float) : Prop where
  unsurpassed : ∀ x ∈ args, ¬ f.Surpasses x v
  leftmost : ∃ before after, args = before ++ v :: after ∧
    ∀ x ∈ before, ∃ y ∈ args, f.Surpasses y x

namespace IsLeftmost

theorem mem (h : f.IsLeftmost args v) : v ∈ args := by
  obtain ⟨before, after, rfl, -⟩ := h.leftmost
  simp

/-- A further argument takes its place where it surpasses it. -/
theorem concat_of_surpasses (h : f.IsLeftmost args v)
    (hnumbers : ∀ y ∈ args ++ [x], y.isNaN = false) (hx : f.Surpasses x v) :
    f.IsLeftmost (args ++ [x]) x := by
  have hxn : x.isNaN = false := hnumbers x (by simp)
  have hvn : v.isNaN = false := hnumbers v (List.mem_append_left _ h.mem)
  -- what does not surpass the best so far is surpassed by what does
  have hbeats : ∀ y ∈ args, f.Surpasses x y := fun y hy =>
    hx.of_not hxn (hnumbers y (List.mem_append_left _ hy)) hvn (h.unsurpassed y hy)
  refine ⟨fun y hy => ?_, args, [], rfl, fun y hy => ⟨x, by simp, hbeats y hy⟩⟩
  rcases List.mem_append.mp hy with hmem | hmem
  · exact (hbeats y hmem).asymm hxn (hnumbers y hy)
  · rw [List.mem_singleton.mp hmem]
    exact not_surpasses_self hxn

/-- And leaves it where it does not. -/
theorem concat_of_not (h : f.IsLeftmost args v) (hx : ¬ f.Surpasses x v) :
    f.IsLeftmost (args ++ [x]) v := by
  obtain ⟨before, after, hsplit, hbefore⟩ := h.leftmost
  refine ⟨fun y hy => ?_, before, after ++ [x], by rw [hsplit]; simp, fun y hy => ?_⟩
  · rcases List.mem_append.mp hy with hy | hy
    · exact h.unsurpassed y hy
    · rwa [List.mem_singleton.mp hy]
  · obtain ⟨z, hz, hsurpasses⟩ := hbefore y hy
    exact ⟨z, List.mem_append_left _ hz, hsurpasses⟩

/-- The order of the arguments does not change the number. -/
theorem beq_of_perm (h : f.IsLeftmost args v) (h' : f.IsLeftmost args' w) (hperm : args'.Perm args)
    (hnumbers : ∀ x ∈ args, x.isNaN = false) : (w == v) = true := by
  have hw : w ∈ args := hperm.mem_iff.mp h'.mem
  have hv : v ∈ args' := hperm.mem_iff.mpr h.mem
  exact beq_of_not_surpasses (hnumbers w hw) (hnumbers v h.mem) (h.unsurpassed w hw)
    (h'.unsurpassed v hv)

end IsLeftmost

theorem extremal_concat (f : Variadic) (first : Float) (rest : List Float) (x : Float) :
    f.extremal first (rest ++ [x]) =
      if f.replaces (f.extremal first rest) x then x else f.extremal first rest := by
  rw [extremal, List.foldl_append]
  rfl

/-- **The walk over numbers ends with the leftmost one that no other surpasses.** -/
theorem isLeftmost_extremal (hnumbers : ∀ x ∈ first :: rest, x.isNaN = false) :
    f.IsLeftmost (first :: rest) (f.extremal first rest) := by
  -- on the arguments walked over: the last one is compared with the best of those before it
  induction rest using List.reverseRecOn with
  | nil =>
    refine ⟨fun x hx => ?_, [], [], rfl, by simp⟩
    rw [List.mem_singleton.mp hx]
    exact not_surpasses_self (hnumbers first (List.mem_singleton_self _))
  | append_singleton rest x ih =>
    have hbest := ih fun y hy => hnumbers y (by simpa using List.mem_append_left [x] hy)
    rw [extremal_concat, ← List.cons_append]
    split
    · next hreplaces =>
      exact hbest.concat_of_surpasses hnumbers (replaces_eq_true_iff.mp hreplaces)
    · next hkeeps => exact hbest.concat_of_not fun h => hkeeps (replaces_eq_true_iff.mpr h)

/-- No number comes of an argument that is none, and a number of numbers. -/
theorem isNaN_apply_iff : (f.apply first rest).isNaN = true ↔ ∃ x ∈ first :: rest, x.isNaN = true := by
  rw [apply, ← List.any_eq_true]
  split
  · next hany => exact iff_of_true rfl hany
  · next hany =>
    have hnumbers : ∀ x ∈ first :: rest, x.isNaN = false := fun x hx =>
      Bool.eq_false_iff.mpr fun hnan => hany (List.any_eq_true.mpr ⟨x, hx, hnan⟩)
    rw [hnumbers _ (isLeftmost_extremal hnumbers).mem]
    exact iff_of_false Bool.false_ne_true hany

section Number

variable (h : (f.apply first rest).isNaN = false)

include h

theorem numbers_of_apply : ∀ x ∈ first :: rest, x.isNaN = false := by
  intro x hx
  rw [← Bool.not_eq_true] at h ⊢
  exact fun hnan => h (isNaN_apply_iff.mpr ⟨x, hx, hnan⟩)

/-- **A number that comes of arguments is the leftmost one that no other surpasses.** -/
theorem isLeftmost_apply : f.IsLeftmost (first :: rest) (f.apply first rest) := by
  have hnumbers := numbers_of_apply h
  have hany : (first :: rest).any Float.isNaN = false :=
    List.any_eq_false.mpr fun x hx => Bool.eq_false_iff.mp (hnumbers x hx)
  rw [apply, hany]
  exact isLeftmost_extremal hnumbers

end Number

end Variadic

/-- A function of many arguments has a value for any but none. -/
theorem applyNamed_variadic (f : Variadic) (first : Float) (rest : List Float) :
    applyNamed f.name (first :: rest) = .ok (f.apply first rest) := by
  have hname : Builtin.ofName? f.name = some (.variadic f) := Builtin.ofName?_name (.variadic f)
  rw [applyNamed, hname]
  rfl

/-- **The greatest and the least of arguments.** They are no number exactly if one of the arguments
is none, wherever it stands. Else they are an argument that no other surpasses, the leftmost one,
and equal to what comes of the arguments in any other order. -/
theorem applyNamed_extremal (f : Variadic) (first : Float) (rest : List Float) :
    ∃ v, applyNamed f.name (first :: rest) = .ok v ∧
      (v.isNaN = true ↔ ∃ x ∈ first :: rest, x.isNaN = true) ∧
      (v.isNaN = false → f.IsLeftmost (first :: rest) v) ∧
      ∀ args, args.Perm (first :: rest) → ∃ w, applyNamed f.name args = .ok w ∧
        w.isNaN = v.isNaN ∧ (v.isNaN = false → (w == v) = true) := by
  refine ⟨_, applyNamed_variadic f first rest, f.isNaN_apply_iff, Variadic.isLeftmost_apply,
    fun args hperm => ?_⟩
  cases args with
  | nil => cases hperm.length_eq
  | cons first' rest' =>
    have hnan : (f.apply first' rest').isNaN = (f.apply first rest).isNaN := by
      rw [Bool.eq_iff_iff, f.isNaN_apply_iff, f.isNaN_apply_iff]
      simp only [hperm.mem_iff]
    refine ⟨_, applyNamed_variadic f first' rest', hnan, fun h => ?_⟩
    exact (Variadic.isLeftmost_apply h).beq_of_perm (Variadic.isLeftmost_apply (hnan.trans h)) hperm
      (Variadic.numbers_of_apply h)

/-- Of two zeros the first one is kept, and in another order the other zero, which is equal. -/
theorem zeros_extremal :
    applyNamed "max" [-1, -0.0, 0.0] = .ok (-0.0) ∧
      Variadic.max.IsLeftmost [-1, -0.0, 0.0] (-0.0) ∧
      applyNamed "max" [0.0, -0.0, -1] = .ok 0.0 ∧ ((0.0 : Float) == -0.0) = true := by
  obtain ⟨v, hv, -, hleftmost, hperm⟩ := applyNamed_extremal .max (-1) [-0.0, 0.0]
  obtain rfl : (-0.0 : Float) = v := Except.ok.inj hv
  obtain ⟨w, hw, -, hbeq⟩ := hperm [0.0, -0.0, -1] (List.reverse_perm [-1, -0.0, 0.0])
  obtain rfl : (0.0 : Float) = w := Except.ok.inj hw
  exact ⟨hv, hleftmost rfl, hw, hbeq rfl⟩

end Reckon
