import Reckon.Proofs.Parser.Lockstep
/-!
# Evaluate — what depends on the point

A template is read the same way at every point: which tokens are passed,
where the bound on the nesting is looked at and how many arguments a call
has never hangs on a value. Only a quotient and a function outside its
domain ask for one, and the errors of these two are the errors of a point.
All other errors are those of the template, at one point as at every other
(`evaluateAt_static`).
-/

namespace Reckon

/-- Whether an error is one of the point: another point may have none. -/
def Error.ofPoint : Error → Bool
  | divisionByZero | domain _ => true
  | _ => false

/-- **Settled up to the point:** a value, or an error of the point. -/
def Settled {α : Type} (x : Except Error α) : Prop :=
  ∀ e, x = .error e → e.ofPoint

/-- **Two outcomes agree up to the point:** both are values, or both are one
error, or one of them is an error of the point. -/
def AgreeUpToPoint (x y : Except Error Float) : Prop :=
  (∃ v w, x = .ok v ∧ y = .ok w) ∨ (∃ e, x = .error e ∧ y = .error e) ∨
    ∃ e, e.ofPoint ∧ (x = .error e ∨ y = .error e)

variable {α : Type}

theorem settled_ok (v : α) : Settled (.ok v : Except Error α) := by
  rintro e ⟨⟩

theorem settled_error {e : Error} (h : e.ofPoint) : Settled (.error e : Except Error α) := by
  rintro _ ⟨⟩
  exact h

/-! ## Operations and functions -/

theorem Parser.operate_settled (op : Operator) (v w : Float) : Settled (Parser.operate op v w) := by
  cases op with
  | divide =>
    rw [Parser.operate]
    split
    · exact settled_error rfl
    · exact settled_ok _
  | plus | minus | times | modulo | caret | stars => exact settled_ok _

theorem Unary.apply_settled (f : Unary) (x : Float) : Settled (f.apply x) := by
  have logarithm (g : Float → Float) : Settled (Unary.logarithm g x) := by
    rw [Unary.logarithm]
    split
    · exact settled_error rfl
    · exact settled_ok _
  cases f with
  | sqrt =>
    rw [Unary.apply]
    split
    · exact settled_error rfl
    · exact settled_ok _
  | log | log10 => exact logarithm _
  | abs | sin | cos | tan | ceil | floor | round => exact settled_ok _

/-- A call of so many arguments is settled whatever they are, or has the same
error whatever they are. -/
theorem applyNamed_settled (name : String) {vs ws : List Float} (h : vs.length = ws.length) :
    Settled (applyNamed name vs) ∧ Settled (applyNamed name ws) ∨
      ∃ e, applyNamed name vs = .error e ∧ applyNamed name ws = .error e := by
  rw [applyNamed, applyNamed]
  cases Builtin.ofName? name with
  | none => exact .inr ⟨_, rfl, rfl⟩
  | some f =>
    match f, vs, ws, h with
    | .unary f, [v], [w], _ => exact .inl ⟨f.apply_settled v, f.apply_settled w⟩
    | .unary f, [], [], _ => exact .inr ⟨_, rfl, rfl⟩
    | .unary f, v :: v' :: vs, w :: w' :: ws, h =>
      refine .inr ⟨_, rfl, ?_⟩
      simp only [Builtin.apply, h]
    | .variadic f, [], [], _ => exact .inr ⟨_, rfl, rfl⟩
    | .variadic f, v :: vs, w :: ws, _ => exact .inl ⟨settled_ok _, settled_ok _⟩

/-! ## Two points -/

namespace Parser

/-- A run that stops for its point, or for want of calls, is excused. -/
def Stop.ofPoint : Stop → Prop
  | error e => e.ofPoint
  | overflow => True

variable {c : Cursor}

/-- Settled steps are in lockstep, whatever their values. -/
theorem lockstep_of_settled {x y : Except Error Float} (hx : Settled x) (hy : Settled y) :
    Lockstep Stop.ofPoint Stop.ofPoint (fun _ _ => True) (value x c) (value y c) := by
  cases x with
  | error e => exact .left (hx e rfl)
  | ok v =>
    cases y with
    | error e => exact .right (hy e rfl)
    | ok w => exact .pure trivial

/-- Bindings of the same names bind the same names. -/
theorem lookup_of_names (name : String) {bindings₁ bindings₂ : Bindings}
    (h : bindings₁.map (·.1) = bindings₂.map (·.1)) :
    Option.Rel (fun _ _ => True) (bindings₁.lookup name) (bindings₂.lookup name) := by
  induction bindings₁ generalizing bindings₂ with
  | nil =>
    obtain rfl : bindings₂ = [] := by simpa using h.symm
    exact .none
  | cons first rest ih =>
    cases bindings₂ with
    | nil => cases h
    | cons first₂ rest₂ =>
      -- the first names are the same, so both lookups stop here or both go on
      obtain ⟨hf, hr⟩ : first.1 = first₂.1 ∧ rest.map (·.1) = rest₂.map (·.1) := by
        simpa using h
      rw [List.lookup_cons, List.lookup_cons, hf]
      cases name == first₂.1 with
      | true => exact .some trivial
      | false => exact ih hr

/-- **Two points of the same names are alike** up to all numbers. -/
theorem alike_of_names (tokens : Array Token) (bound : Quantity) {bindings₁ bindings₂ : Bindings}
    (h : bindings₁.map (·.1) = bindings₂.map (·.1)) :
    Alike Stop.ofPoint Stop.ofPoint (fun _ _ => True)
      ⟨tokens, bindings₁, bound⟩ ⟨tokens, bindings₂, bound⟩ where
  tokens := rfl
  levels := Nat.le_refl _
  bound := .inl rfl
  overflow := trivial
  number _ := trivial
  negation _ := trivial
  lookup name := .inl (lookup_of_names name h)
  operate op _ _ _ _ _ _ _ :=
    lockstep_of_settled (operate_settled op _ _) (operate_settled op _ _)
  apply name vs ws c hvs := by
    obtain ⟨hv, hw⟩ | ⟨e, hv, hw⟩ := applyNamed_settled name hvs.length_eq
    · exact lockstep_of_settled hv hw
    · rw [hv, hw]
      exact .fail e

/-- What whole sequences come to under bindings of the same names agrees up to
the point. -/
theorem outcome_of_names (tokens : List Token) (bound : Value) {bindings₁ bindings₂ : Bindings}
    (h : bindings₁.map (·.1) = bindings₂.map (·.1)) :
    AgreeUpToPoint (outcome tokens bindings₁ bound) (outcome tokens bindings₂ bound) := by
  rw [outcome, outcome]
  obtain ⟨e, he⟩ | ⟨q, hq⟩ := new_cases tokens bound
  · rw [he, he]
    exact .inr (.inl ⟨e, rfl, rfl⟩)
  · rw [hq, hq]
    have hcalls₁ := whole_not_overflow ⟨tokens.toArray, bindings₁, q⟩ ⟨0, 0⟩
    have hcalls₂ := whole_not_overflow ⟨tokens.toArray, bindings₂, q⟩ ⟨0, 0⟩
    have hsteps := whole_inStep (alike_of_names tokens.toArray q h) ⟨0, 0⟩
    simp only [bind, Except.bind, parse_eq_run, run]
    generalize whole ⟨tokens.toArray, bindings₁, q⟩ ⟨0, 0⟩ = r₁ at hsteps hcalls₁ ⊢
    generalize whole ⟨tokens.toArray, bindings₂, q⟩ ⟨0, 0⟩ = r₂ at hsteps hcalls₂ ⊢
    -- neither run is short of calls, so a stop is an error
    cases hsteps with
    | values _ => exact .inl ⟨_, _, rfl, rfl⟩
    | @stops stop c =>
      cases stop with
      | error e => exact .inr (.inl ⟨e, rfl, rfl⟩)
      | overflow => exact absurd rfl (hcalls₁ c)
    | @left stop c _ hs =>
      cases stop with
      | error e => exact .inr (.inr ⟨e, hs, .inl rfl⟩)
      | overflow => exact absurd rfl (hcalls₁ c)
    | @right stop c _ hs =>
      cases stop with
      | error e => exact .inr (.inr ⟨e, hs, .inr rfl⟩)
      | overflow => exact absurd rfl (hcalls₂ c)

end Parser

/-- **The errors of a template do not depend on the point,** but for those of
the point itself. Where neither of two points has such an error, both have
values, or one and the same error; and where one point has a value, every
other has a value or an error of the point. -/
theorem evaluateAt_static (bound : Value) (template : String) (x₁ x₂ : Float) :
    ((∀ e, evaluateAt bound template x₁ = .error e → e.ofPoint = false) →
      (∀ e, evaluateAt bound template x₂ = .error e → e.ofPoint = false) →
      (∃ v₁ v₂, evaluateAt bound template x₁ = .ok v₁ ∧ evaluateAt bound template x₂ = .ok v₂) ∨
        ∃ e, evaluateAt bound template x₁ = .error e ∧ evaluateAt bound template x₂ = .error e) ∧
    (∀ v₁, evaluateAt bound template x₁ = .ok v₁ →
      (∃ v₂, evaluateAt bound template x₂ = .ok v₂) ∨
        ∃ e, evaluateAt bound template x₂ = .error e ∧ e.ofPoint = true) := by
  have h : AgreeUpToPoint (evaluateAt bound template x₁) (evaluateAt bound template x₂) := by
    simp only [evaluateAt, Parser.evaluateWith_eq, List.map_cons, List.map_nil]
    cases tokenize [variableName] template with
    | error e => exact .inr (.inl ⟨e, rfl, rfl⟩)
    | ok tokens => exact Parser.outcome_of_names tokens bound rfl
  -- both have values, both fail alike, or one fails for its point
  obtain ⟨v, w, hv, hw⟩ | ⟨e, he₁, he₂⟩ | ⟨e, hp, he | he⟩ := h
  · exact ⟨fun _ _ => .inl ⟨v, w, hv, hw⟩, fun _ _ => .inl ⟨w, hw⟩⟩
  · exact ⟨fun _ _ => .inr ⟨e, he₁, he₂⟩, fun v hv => by simp [he₁] at hv⟩
  · exact ⟨fun h₁ _ => by simp [h₁ e he] at hp, fun v hv => by simp [he] at hv⟩
  · exact ⟨fun _ h₂ => by simp [h₂ e he] at hp, fun _ _ => .inr ⟨e, he, hp⟩⟩

/-- The reciprocal has a value at one, so at zero it has one or fails for the
point. -/
theorem evaluateAt_static_reciprocal :
    (∃ v, evaluateAt (.whole 100) "1/x" 0 = .ok v) ∨
      ∃ e, evaluateAt (.whole 100) "1/x" 0 = .error e ∧ e.ofPoint = true :=
  (evaluateAt_static (.whole 100) "1/x" 1 0).2 1 rfl

end Reckon
