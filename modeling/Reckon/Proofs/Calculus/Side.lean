import Mathlib.Data.List.Forall2
import Reckon.Calculus
import Reckon.Proofs.Except
/-!
# Calculus — what the sides of a limit show

On each side of a point samples are taken in turn. They come to one without a
finite value (`BreaksOff`), which ends the side, or they are finite and the last
two agree (`SettlesOn`), or they are finite and do not agree. A search for a
limit that ends with its two sides has found no finite value at the point, and
each side shows one of the first two (`searchLimit_eq_sides_iff`).
-/

namespace Reckon

namespace Calculus

variable {ε : Type} {f : Float → Except ε (Option Float)}
variable {x direction tolerance v : Float} {points steps : List Float} {left right : Option Float}

/-! ## Samples in turn -/

/-- **A finite value** at a point. -/
def HasValue (f : Float → Except ε (Option Float)) (x v : Float) : Prop :=
  f x = .ok (some v) ∧ v.isFinite = true

/-- **A sample without a finite value:** none at all, where the point is outside the
domain, or an infinity or NaN. -/
def Lacks (f : Float → Except ε (Option Float)) (x : Float) (sample : Option Float) : Prop :=
  f x = .ok sample ∧ sample.filter Float.isFinite = none

/-- **Samples in turn break off** at the first one without a finite value. -/
inductive BreaksOff (f : Float → Except ε (Option Float)) : List Float → Option Float → Prop where
  | here {p : Float} {rest : List Float} {sample : Option Float} (h : Lacks f p sample) :
      BreaksOff f (p :: rest) sample
  | later {p v : Float} {rest : List Float} {sample : Option Float} (h : HasValue f p v)
      (hrest : BreaksOff f rest sample) : BreaksOff f (p :: rest) sample

/-- **A side diverges** where its samples break off at an infinity. -/
def Diverges (f : Float → Except ε (Option Float)) (points : List Float) : Prop :=
  ∃ v, v.isInf = true ∧ BreaksOff f points (some v)

/-- **A side settles on a value:** all samples are finite, and the last two agree. -/
def SettlesOn (f : Float → Except ε (Option Float)) (points : List Float)
    (tolerance v : Float) : Prop :=
  ∃ values previous, List.Forall₂ (HasValue f) points (values ++ [previous, v]) ∧
    close v previous tolerance = true

/-- The points at which a side is sampled. -/
def sidePoints (x direction : Float) (steps : List Float) : List Float :=
  steps.map fun h => x + direction * h

/-- **What a side shows:** nothing where it breaks off, else the value that it settles on. -/
def Shows (f : Float → Except ε (Option Float)) (points : List Float) (tolerance : Float) :
    Option Float → Prop
  | none => ∃ sample, BreaksOff f points sample
  | some v => SettlesOn f points tolerance v

/-! ## Single samples -/

theorem filter_isFinite (v : Float) :
    (some v).filter Float.isFinite = if v.isFinite then some v else none := rfl

/-- A sample has a finite value, lacks one, or stops with an error. -/
theorem sample_cases (f : Float → Except ε (Option Float)) (p : Float) :
    (∃ v, HasValue f p v) ∨ (∃ sample, Lacks f p sample) ∨ ∃ e, f p = .error e := by
  rcases h : f p with e | - | v
  · exact .inr (.inr ⟨e, rfl⟩)
  · exact .inr (.inl ⟨none, h, rfl⟩)
  · cases hv : v.isFinite with
    | true => exact .inl ⟨v, h, hv⟩
    | false => exact .inr (.inl ⟨some v, h, by rw [filter_isFinite, hv]; rfl⟩)

theorem HasValue.not_lacks {p : Float} {sample : Option Float} (h : HasValue f p v) :
    ¬ Lacks f p sample := by
  rintro ⟨hsample, hfilter⟩
  obtain rfl := Except.ok.inj (h.1.symm.trans hsample)
  rw [filter_isFinite, if_pos h.2] at hfilter
  cases hfilter

/-- Samples that break off are not all finite. -/
theorem BreaksOff.not_finite {sample : Option Float} {values : List Float}
    (h : BreaksOff f points sample) : ¬ List.Forall₂ (HasValue f) points values := by
  induction h generalizing values with
  | here hlacks =>
    rintro (- | ⟨hvalue, -⟩)
    exact hvalue.not_lacks hlacks
  | later hvalue hrest ih =>
    rintro (- | ⟨-, hfinite⟩)
    exact ih hfinite

/-- So a side that breaks off settles on nothing. -/
theorem BreaksOff.not_settlesOn {sample : Option Float} (h : BreaksOff f points sample) :
    ¬ SettlesOn f points tolerance v := by
  rintro ⟨values, previous, hfinite, -⟩
  exact h.not_finite hfinite

theorem isFinite_of_mem {values : List Float} (h : List.Forall₂ (HasValue f) points values)
    (hv : v ∈ values) : v.isFinite = true := by
  induction h with
  | nil => cases hv
  | cons hfirst _ ih =>
    rcases List.mem_cons.mp hv with rfl | hv
    · exact hfirst.2
    · exact ih hv

/-- What a side settles on is finite. -/
theorem SettlesOn.isFinite (h : SettlesOn f points tolerance v) : v.isFinite = true := by
  obtain ⟨values, previous, hfinite, -⟩ := h
  exact isFinite_of_mem hfinite (by simp)

/-! ## Samples as they are taken -/

section Taken

variable {p : Float} {rest taken all : List Float}

theorem finiteSamples_of_hasValue (h : HasValue f p v) :
    finiteSamples f taken (p :: rest) = finiteSamples f (v :: taken) rest := by
  rw [finiteSamples, h.1]
  simp only [bind, Except.bind, h.2, if_true]

theorem finiteSamples_of_lacks {sample : Option Float} (h : Lacks f p sample) :
    finiteSamples f taken (p :: rest) = .ok none := by
  obtain ⟨hsample, hfilter⟩ := h
  rw [finiteSamples, hsample]
  cases sample with
  | none => rfl
  | some v =>
    rw [filter_isFinite] at hfilter
    split at hfilter
    · cases hfilter
    · next hv =>
      simp only [bind, Except.bind, hv]
      rfl

theorem finiteSamples_of_error {e : ε} (h : f p = .error e) :
    finiteSamples f taken (p :: rest) = .error e := by
  rw [finiteSamples, h]
  rfl

/-- Samples are given up exactly where they break off. -/
theorem finiteSamples_eq_none_iff (taken : List Float) :
    finiteSamples f taken points = .ok none ↔ ∃ sample, BreaksOff f points sample := by
  induction points generalizing taken with
  | nil =>
    refine iff_of_false (fun h => ?_) ?_
    · cases h
    · rintro ⟨sample, ⟨⟩⟩
  | cons p rest ih =>
    rcases sample_cases f p with ⟨v, hvalue⟩ | ⟨sample, hlacks⟩ | ⟨e, herror⟩
    · rw [finiteSamples_of_hasValue hvalue, ih]
      constructor
      · rintro ⟨sample, hrest⟩
        exact ⟨sample, .later hvalue hrest⟩
      · rintro ⟨sample, hlacks | ⟨-, hrest⟩⟩
        · exact absurd hlacks hvalue.not_lacks
        · exact ⟨sample, hrest⟩
    · exact iff_of_true (finiteSamples_of_lacks hlacks) ⟨sample, .here hlacks⟩
    · rw [finiteSamples_of_error herror]
      refine iff_of_false (fun h => ?_) ?_
      · cases h
      · rintro ⟨sample, hlacks | ⟨hvalue, -⟩⟩
        · cases herror.symm.trans hlacks.1
        · cases herror.symm.trans hvalue.1

/-- They are kept, the last one first, exactly where they are all finite. -/
theorem finiteSamples_eq_some_iff : finiteSamples f taken points = .ok (some all) ↔
    ∃ values, List.Forall₂ (HasValue f) points values ∧ all = values.reverse ++ taken := by
  induction points generalizing taken with
  | nil =>
    constructor
    · intro h
      obtain rfl := Option.some.inj (Except.ok.inj h)
      exact ⟨[], .nil, rfl⟩
    · rintro ⟨values, ⟨⟩, rfl⟩
      rfl
  | cons p rest ih =>
    rcases sample_cases f p with ⟨v, hvalue⟩ | ⟨sample, hlacks⟩ | ⟨e, herror⟩
    · rw [finiteSamples_of_hasValue hvalue, ih]
      constructor
      · rintro ⟨values, hrest, rfl⟩
        exact ⟨v :: values, .cons hvalue hrest, by simp⟩
      · rintro ⟨values, - | ⟨hfirst, hrest⟩, rfl⟩
        obtain rfl := Option.some.inj (Except.ok.inj (hvalue.1.symm.trans hfirst.1))
        exact ⟨_, hrest, by simp⟩
    · rw [finiteSamples_of_lacks hlacks]
      refine iff_of_false (fun h => ?_) ?_
      · cases h
      · rintro ⟨values, hfinite, -⟩
        exact (BreaksOff.here hlacks).not_finite hfinite
    · rw [finiteSamples_of_error herror]
      refine iff_of_false (fun h => ?_) ?_
      · cases h
      · rintro ⟨values, - | ⟨hfirst, -⟩, -⟩
        cases herror.symm.trans hfirst.1

end Taken

/-! ## Sides -/

theorem settle_eq_settled_iff {all : List Float} : settle tolerance all = .settled v ↔
    ∃ previous before, all = v :: previous :: before ∧ close v previous tolerance = true := by
  constructor
  · intro h
    rw [settle.eq_def] at h
    split at h
    · next last previous before =>
      split at h
      · next hclose =>
        obtain rfl := Side.settled.inj h
        exact ⟨previous, before, rfl, hclose⟩
      · cases h
    · cases h
  · rintro ⟨previous, before, rfl, hclose⟩
    rw [settle, if_pos hclose]

theorem approach_eq_undefined_iff : approach f x direction steps tolerance = .ok .undefined ↔
    ∃ sample, BreaksOff f (sidePoints x direction steps) sample := by
  rw [← finiteSamples_eq_none_iff [], approach, Except.bind_eq_ok_iff]
  constructor
  · rintro ⟨- | all, htaken, hside⟩
    · exact htaken
    · -- samples that were all taken settle or do not, but are no undefined side
      exfalso
      replace hside : settle tolerance all = .undefined := Except.ok.inj hside
      rw [settle.eq_def] at hside
      split at hside
      · split at hside <;> cases hside
      · cases hside
  · exact fun h => ⟨none, h, rfl⟩

theorem approach_eq_settled_iff : approach f x direction steps tolerance = .ok (.settled v) ↔
    SettlesOn f (sidePoints x direction steps) tolerance v := by
  rw [approach, Except.bind_eq_ok_iff]
  constructor
  · rintro ⟨- | all, htaken, hside⟩
    · cases hside
    · obtain ⟨values, hfinite, rfl⟩ := finiteSamples_eq_some_iff.mp htaken
      obtain ⟨previous, before, hall, hclose⟩ := settle_eq_settled_iff.mp (Except.ok.inj hside)
      refine ⟨before.reverse, previous, ?_, hclose⟩
      rw [List.append_nil, List.reverse_eq_iff] at hall
      rw [hall, List.reverse_cons, List.reverse_cons, List.append_assoc] at hfinite
      exact hfinite
  · rintro ⟨values, previous, hfinite, hclose⟩
    refine ⟨_, finiteSamples_eq_some_iff.mpr ⟨_, hfinite, rfl⟩, ?_⟩
    exact congrArg Except.ok (settle_eq_settled_iff.mpr ⟨previous, values.reverse, by simp, hclose⟩)

/-- What an approach has come to, unless the side does not settle, is what the side shows. -/
theorem approach_shows {w : Option Float} :
    (∃ side, approach f x direction steps tolerance = .ok side ∧ side ≠ .unsettled ∧
      side.value? = w) ↔ Shows f (sidePoints x direction steps) tolerance w := by
  cases w with
  | none =>
    rw [Shows, ← approach_eq_undefined_iff]
    constructor
    · rintro ⟨side, happroach, hsettles, hvalue⟩
      cases side with
      | undefined => exact happroach
      | unsettled => exact absurd rfl hsettles
      | settled v => cases hvalue
    · exact fun h => ⟨_, h, Side.noConfusion, rfl⟩
  | some v =>
    rw [Shows, ← approach_eq_settled_iff]
    constructor
    · rintro ⟨side, happroach, -, hvalue⟩
      cases side with
      | undefined | unsettled => cases hvalue
      | settled v' =>
        obtain rfl := Option.some.inj hvalue
        exact happroach
    · exact fun h => ⟨_, h, Side.noConfusion, rfl⟩

/-! ## The search -/

section Search

variable {taking : Except ε (List Float)}

theorem searchLimit_of_hasValue (h : HasValue f x v) :
    searchLimit f x taking tolerance = .ok (.direct v) := by
  rw [searchLimit, h.1]
  simp only [bind, Except.bind, filter_isFinite, h.2, if_true]
  rfl

theorem searchLimit_of_error {e : ε} (h : f x = .error e) :
    searchLimit f x taking tolerance = .error e := by
  rw [searchLimit, h]
  rfl

/-- Where the point lacks a value both sides are approached, the left one first. -/
theorem searchLimit_of_lacks {sample : Option Float} (h : Lacks f x sample) :
    searchLimit f x taking tolerance =
      (taking >>= fun steps => approach f x (-1) steps tolerance >>= fun
        | .unsettled => .ok .diverges
        | left => approach f x 1 steps tolerance >>= fun
          | .unsettled => .ok .diverges
          | right => .ok (.sides left.value? right.value?)) := by
  rw [searchLimit, h.1]
  simp only [bind, Except.bind, h.2]
  rfl

/-- **A search that ends with its two sides** has found no finite value at the point, and
the sides as they show. -/
theorem searchLimit_eq_sides_iff :
    searchLimit f x taking tolerance = .ok (.sides left right) ↔
      (∃ sample, Lacks f x sample) ∧ ∃ steps, taking = .ok steps ∧
        Shows f (sidePoints x (-1) steps) tolerance left ∧
        Shows f (sidePoints x 1 steps) tolerance right := by
  simp only [← approach_shows]
  rcases sample_cases f x with ⟨v, hvalue⟩ | ⟨sample, hlacks⟩ | ⟨e, herror⟩
  · rw [searchLimit_of_hasValue hvalue]
    refine iff_of_false (fun h => ?_) ?_
    · cases h
    · rintro ⟨⟨sample, hlacks⟩, -⟩
      exact hvalue.not_lacks hlacks
  · rw [searchLimit_of_lacks hlacks, Except.bind_eq_ok_iff]
    constructor
    · rintro ⟨steps, hsteps, h⟩
      obtain ⟨side, hleft, h⟩ := Except.bind_eq_ok_iff.mp h
      cases side with
      | unsettled => cases h
      | undefined | settled v =>
        obtain ⟨side', hright, h⟩ := Except.bind_eq_ok_iff.mp h
        cases side' with
        | unsettled => cases h
        | undefined | settled v' =>
          cases h
          exact ⟨⟨sample, hlacks⟩, steps, hsteps, ⟨_, hleft, Side.noConfusion, rfl⟩,
            ⟨_, hright, Side.noConfusion, rfl⟩⟩
    · rintro ⟨-, steps, hsteps, ⟨side, hleft, hsettles, rfl⟩, ⟨side', hright, hsettles', rfl⟩⟩
      refine ⟨steps, hsteps, Except.bind_eq_ok_iff.mpr ⟨side, hleft, ?_⟩⟩
      cases side with
      | unsettled => exact absurd rfl hsettles
      | undefined | settled v =>
        refine Except.bind_eq_ok_iff.mpr ⟨side', hright, ?_⟩
        cases side' with
        | unsettled => exact absurd rfl hsettles'
        | undefined | settled v' => rfl
  · rw [searchLimit_of_error herror]
    refine iff_of_false (fun h => ?_) ?_
    · cases h
    · rintro ⟨⟨sample, hlacks⟩, -⟩
      cases herror.symm.trans hlacks.1

/-- A search ends at the point itself exactly where there is a finite value. -/
theorem searchLimit_eq_direct_iff : searchLimit f x taking tolerance = .ok (.direct v) ↔
    HasValue f x v := by
  refine ⟨fun h => ?_, searchLimit_of_hasValue⟩
  rcases sample_cases f x with ⟨v', hvalue⟩ | ⟨sample, hlacks⟩ | ⟨e, herror⟩
  · rw [searchLimit_of_hasValue hvalue] at h
    cases h
    exact hvalue
  · rw [searchLimit_of_lacks hlacks, Except.bind_eq_ok_iff] at h
    obtain ⟨steps, -, h⟩ := h
    obtain ⟨side, -, h⟩ := Except.bind_eq_ok_iff.mp h
    cases side with
    | unsettled => cases h
    | undefined | settled w =>
      obtain ⟨side', -, h⟩ := Except.bind_eq_ok_iff.mp h
      cases side' <;> cases h
  · rw [searchLimit_of_error herror] at h
    cases h

end Search

end Calculus

end Reckon
