import Reckon.Proofs.Evaluate.Point
import Reckon.Proofs.Parser.Reasons
import Reckon.Proofs.Token.Names
/-!
# Evaluate — the errors of an expression

The scanner lets a name pass only where it stands for something, so the parser
never comes upon one that does not: once an expression has tokens, and the
declared variables have values, what goes wrong is wrong with the expression,
and it is no unknown name (`parse_of_tokenize`).
-/

namespace Reckon

/-- Whether an error is one of the expression, and not of what it is evaluated
under: the values of its variables and the nesting bound. -/
def Error.ofExpression : Error → Bool
  | unboundVariable _ | boundOutOfRange _ | boundNoNumber _ => false
  | _ => true

/-- **An error of an expression whose names are known:** one of the expression,
and no unknown name. -/
def Error.OfKnownNames (e : Error) : Prop :=
  e.ofExpression = true ∧ ∀ name, e ≠ .unknownName name

theorem Error.ofKnownNames_of_ofPoint {e : Error} (h : e.ofPoint = true) : e.OfKnownNames := by
  cases e <;> cases h <;> exact ⟨rfl, by rintro name ⟨⟩⟩

/-- A known function has no value for its arguments or for their number only. -/
theorem Builtin.ofKnownNames_of_apply {f : Builtin} {args : List Float} {e : Error}
    (h : f.apply args = .error e) : e.OfKnownNames := by
  have wrongArity {f : Builtin} {n : Nat} (h : Error.wrongArity f.name f.arity n = e) :
      e.OfKnownNames := by
    subst h
    exact ⟨rfl, by rintro name ⟨⟩⟩
  match f, args with
  | .unary f, [x] => exact Error.ofKnownNames_of_ofPoint (f.apply_settled x e h)
  | .unary f, [] => exact wrongArity (Except.error.inj h)
  | .unary f, _ :: _ :: _ => exact wrongArity (Except.error.inj h)
  | .variadic f, [] => exact wrongArity (Except.error.inj h)
  | .variadic f, x :: rest => cases h

/-! ## Names that stand for something -/

variable {declared : List String} {bindings : Bindings} {ts : List Token}

namespace Parser

/-- **A run over tokens whose names stand for something** stops for an error of
known names. -/
theorem Reason.ofKnownNames {input : Input} {e : Error}
    (hresolved : ∀ token ∈ input.tokens.toList, Scan.Resolved declared token.lexeme)
    (hbound : ∀ name ∈ declared, ∃ v, input.bindings.lookup name = some v)
    (h : Reason input (.error e)) : e.OfKnownNames := by
  cases h with
  | nesting | missing | unexpected | required => exact ⟨rfl, by rintro name ⟨⟩⟩
  | operation he => exact Error.ofKnownNames_of_ofPoint (operate_settled _ _ _ e he)
  | constantName hmem he =>
    obtain ⟨v, hv⟩ := Option.isSome_iff_exists.mp (hresolved _ hmem)
    rw [constantValue, hv] at he
    cases he
  | variableName hmem hl =>
    obtain ⟨v, hv⟩ := hbound _ (hresolved _ hmem)
    rw [hv] at hl
    cases hl
  | functionName hmem he =>
    obtain ⟨f, hf⟩ := Option.isSome_iff_exists.mp (hresolved _ hmem)
    rw [applyNamed, hf] at he
    exact Builtin.ofKnownNames_of_apply he

/-- And so does a whole sequence. -/
theorem ofKnownNames_of_parse {p : Parser} {e : Error}
    (hresolved : ∀ token ∈ p.input.tokens.toList, Scan.Resolved declared token.lexeme)
    (hbound : ∀ name ∈ declared, ∃ v, p.input.bindings.lookup name = some v)
    (h : p.parse.1 = .error e) : e.OfKnownNames := by
  rcases parse_eq_error h with rfl | rfl | h
  · exact ⟨rfl, by rintro name ⟨⟩⟩
  · exact ⟨rfl, by rintro name ⟨⟩⟩
  · exact h.ofKnownNames hresolved hbound

end Parser

/-! ## Errors of the scanner -/

namespace Scan

/-- A token that is refused is refused for the expression. -/
theorem failsOnly_ofExpression (position : Nat) (c : Char) (r : List Char) :
    Except.FailsOnly (fun e => e.ofExpression = true) (lexeme declared position c r) := by
  intro e h
  cases refused_of_lexeme h <;> rfl

end Scan

theorem ofExpression_of_tokenize {expression : String} {e : Error}
    (h : tokenize declared expression = .error e) : e.ofExpression = true := by
  rw [tokenize] at h
  split at h
  · cases h
    rfl
  · exact Scan.failsOnly_tokens Scan.failsOnly_ofExpression _ 0 0 e h

/-! ## Expressions -/

variable {expression : String} {bound : Nat}

/-- What is bound has a value. -/
theorem exists_lookup_of_mem {name : String} (h : name ∈ bindings.map (·.1)) :
    ∃ v, bindings.lookup name = some v := by
  induction bindings with
  | nil => cases h
  | cons first rest ih =>
    rw [List.lookup_cons]
    cases hname : name == first.1 with
    | true => exact ⟨first.2, rfl⟩
    | false =>
      rcases List.mem_cons.mp h with rfl | hrest
      · simp at hname
      · exact ih hrest

/-- **The parser never fails for a name of a text that has tokens.** -/
theorem ofKnownNames_of_tokenize (hleast : 1 ≤ bound) (hgreatest : bound ≤ 114)
    (hbound : ∀ name ∈ declared, ∃ v, bindings.lookup name = some v)
    (hts : tokenize declared expression = .ok ts) :
    ∃ p, Parser.new ts bindings (.whole bound) = .ok p ∧
      ∀ e, p.parse.1 = .error e → e.OfKnownNames := by
  refine ⟨_, Parser.new_eq_fresh hleast hgreatest, fun e h => ?_⟩
  refine Parser.ofKnownNames_of_parse (fun token hmem => ?_) hbound h
  have hmem : token ∈ ts := by simpa [Parser.fresh] using hmem
  exact Scan.resolved_of_tokens _ 0 0 ts (Scan.tokenize_eq_ok hts) token hmem

/-- Nor does it under any other bound: every name that it comes upon is known and has
a value. -/
theorem outcome_ne_of_tokenize {bound : Value} (name : String)
    (hbound : ∀ name ∈ declared, ∃ v, bindings.lookup name = some v)
    (hts : tokenize declared expression = .ok ts) :
    Parser.outcome ts bindings bound ≠ .error (.unknownName name) ∧
      Parser.outcome ts bindings bound ≠ .error (.unboundVariable name) := by
  have hresolved := Scan.resolved_of_tokens _ 0 0 ts (Scan.tokenize_eq_ok hts)
  rcases Parser.new_cases ts bound with ⟨e, hnew⟩ | ⟨q, hnew⟩
  · rw [Parser.outcome, hnew]
    rcases Parser.new_eq_error (hnew bindings) with ⟨kind, rfl⟩ | ⟨q, rfl⟩ <;>
      exact ⟨by rintro ⟨⟩, by rintro ⟨⟩⟩
  · have houtcome : Parser.outcome ts bindings bound =
        (Parser.mk ⟨ts.toArray, bindings, q⟩ ⟨0, 0⟩).parse.1 := by
      rw [Parser.outcome, hnew]
      rfl
    rw [houtcome]
    have hknown {e : Error}
        (h : (Parser.mk ⟨ts.toArray, bindings, q⟩ ⟨0, 0⟩).parse.1 = .error e) : e.OfKnownNames :=
      Parser.ofKnownNames_of_parse hresolved hbound h
    exact ⟨fun h => (hknown h).2 name rfl, fun h => Bool.noConfusion (hknown h).1⟩

/-- **An unknown name** is one for the scanner. -/
theorem evaluateWith_eq_unknownName_iff {bound : Value} {name : String} :
    evaluateWith bindings bound expression = .error (.unknownName name) ↔
      tokenize (bindings.map (·.1)) expression = .error (.unknownName name) := by
  rw [Parser.evaluateWith_eq]
  cases hts : tokenize (bindings.map (·.1)) expression with
  | error e => constructor <;> rintro ⟨⟩ <;> rfl
  | ok ts =>
    refine ⟨fun h => ?_, by rintro ⟨⟩⟩
    exact absurd h (outcome_ne_of_tokenize name (fun _ => exists_lookup_of_mem) hts).1

/-- An expression fails for itself, and for an unknown name where the scanner does. -/
theorem evaluateWith_eq_error (hleast : 1 ≤ bound) (hgreatest : bound ≤ 114) :
    (∀ e, evaluateWith bindings (.whole bound) expression = .error e → e.ofExpression = true) ∧
      ∀ name, evaluateWith bindings (.whole bound) expression = .error (.unknownName name) ↔
        tokenize (bindings.map (·.1)) expression = .error (.unknownName name) := by
  refine ⟨fun e h => ?_, fun name => evaluateWith_eq_unknownName_iff⟩
  rw [Parser.evaluateWith_eq] at h
  rcases Except.bind_eq_error_iff.mp h with hts | ⟨ts, hts, h⟩
  · exact ofExpression_of_tokenize hts
  · obtain ⟨p, hp, hparse⟩ :=
      ofKnownNames_of_tokenize hleast hgreatest (fun _ => exists_lookup_of_mem) hts
    rw [Parser.outcome, hp] at h
    exact (hparse e h).1

/-- **Nothing but an error of the expression comes out of an evaluation.** Under
declared variables that all have values and an accepted bound, a text whose
tokens can be read never fails in the parser for a name or for the bound; so an
expression, or a template at a point, has a value or an error of its own, which is
an unknown name exactly where the scanner says so. -/
theorem parse_of_tokenize (declared : List String) (expression : String) (bindings : Bindings)
    (bound : Nat) (hleast : 1 ≤ bound) (hgreatest : bound ≤ 114)
    (hbound : ∀ name ∈ declared, ∃ v, bindings.lookup name = some v) :
    (∀ e, tokenize declared expression = .error e → e.ofExpression = true) ∧
    (∀ tokens, tokenize declared expression = .ok tokens →
      ∃ p, Parser.new tokens bindings (.whole bound) = .ok p ∧ ∀ e, p.parse.1 = .error e →
        e.ofExpression = true ∧ ∀ name, e ≠ .unknownName name) ∧
    ((∀ e, evaluate (.whole bound) expression = .error e → e.ofExpression = true) ∧
      ∀ name, evaluate (.whole bound) expression = .error (.unknownName name) ↔
        tokenize [] expression = .error (.unknownName name)) ∧
    ∀ x, (∀ e, evaluateAt (.whole bound) expression x = .error e → e.ofExpression = true) ∧
      ∀ name, evaluateAt (.whole bound) expression x = .error (.unknownName name) ↔
        tokenize [variableName] expression = .error (.unknownName name) :=
  ⟨fun _ => ofExpression_of_tokenize,
    fun _ => ofKnownNames_of_tokenize hleast hgreatest hbound,
    evaluateWith_eq_error hleast hgreatest,
    fun _ => evaluateWith_eq_error hleast hgreatest⟩

/-- So a call of `f`, declared with a value as a variable, fails for what follows
its name and not for the name. -/
theorem parse_of_tokenize_call :
    ∃ tokens p, tokenize ["f"] "f(1)" = .ok tokens ∧
      Parser.new tokens [("f", 2)] (.whole 1) = .ok p ∧ p.parse.1 = .error .trailingTokens ∧
      ∀ e, p.parse.1 = .error e → e.ofExpression = true ∧ ∀ name, e ≠ .unknownName name := by
  have hlookup : ∀ name ∈ ["f"], ∃ v, List.lookup name [("f", (2 : Float))] = some v := by
    intro name hname
    obtain rfl := List.mem_singleton.mp hname
    exact ⟨2, rfl⟩
  have h := parse_of_tokenize ["f"] "f(1)" [("f", 2)] 1 (by decide) (by decide) hlookup
  obtain ⟨p, hp, herror⟩ := h.2.1 _ rfl
  obtain rfl := Except.ok.inj hp
  exact ⟨_, _, rfl, rfl, rfl, herror⟩

end Reckon
