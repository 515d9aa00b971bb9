import Reckon.Proofs.Evaluate.Point
import Reckon.Proofs.Grammar.Reading
import Reckon.Proofs.Token.Text
/-!
# Evaluate — the variable in parentheses

The template that is the variable in so many pairs of parentheses. Its value
at a point is the point where the nesting bound is accepted and allows as many
nested parts (`evaluateAt_groups`), and it has no value at any point where not
(`evaluateAt_groups_refused`): of all templates these tell nesting bounds
apart.
-/

namespace Reckon

/-- The characters of the variable in so many pairs of parentheses. -/
def groupChars : Nat → List Char
  | 0 => variableName.toList
  | k + 1 => '(' :: groupChars k ++ [')']

/-- The variable in so many pairs of parentheses. -/
def groups (k : Nat) : String :=
  String.ofList (groupChars k)

namespace Grammar

open Scan (tokens_cons)

/-- A primary expression as an expression. -/
def Tree.ofPrimary (base : Tree .primary) : Tree .expression :=
  .ofProduct (.factor base)

/-- The tree of the variable in so many pairs of parentheses, from a position
on. -/
def groupTree : (k position : Nat) → Tree .primary
  | 0, position => .variableName variableName position
  | k + 1, position =>
    .group ⟨"(", position⟩ (.ofPrimary (groupTree k (position + 1)))
      ⟨")", (position + 2 * k + 2 : Nat)⟩

/-- The name of the variable is a token by itself where no name goes on. -/
theorem lexeme_variableName {position : Nat} {rest : List Char}
    (h : rest.head?.any Scan.isNameChar = false) :
    Scan.lexeme [variableName] position 'x' rest = .ok (.symbol .variableName variableName, 0) := by
  have hname : ('x' :: rest).takeWhile Scan.isNameChar = ['x'] := by
    rw [List.takeWhile_cons_of_pos (by decide)]
    cases rest with
    | nil => rfl
    | cons c rest => rw [List.takeWhile_cons_of_neg (by simpa using h)]
  change Scan.name [variableName] ('x' :: rest) = _
  rw [Scan.name, hname]
  rfl

/-- The characters are read as the tokens of the tree, and what follows them as
it would be by itself. -/
theorem tokens_groupChars (k position : Nat) (rest : List Char)
    (h : rest.head?.any Scan.isNameChar = false) :
    Scan.tokens [variableName] 0 position (groupChars k ++ rest) = (do
      let ts ← Scan.tokens [variableName] 0 (position + 2 * k + 1) rest
      return (groupTree k position).yield ++ ts) := by
  induction k generalizing position rest with
  | zero => exact tokens_cons (by decide) (lexeme_variableName h)
  | succ k ih =>
    -- inside the outer pair the closing parenthesis follows, which continues no name
    have hclose := ih (position + 1) (')' :: rest) rfl
    rw [groupChars, List.cons_append, List.cons_append, List.append_assoc,
      tokens_cons (by decide) rfl, List.singleton_append, hclose, tokens_cons (by decide) rfl]
    have hend : position + 1 + 2 * k + 1 + 1 = position + 2 * (k + 1) + 1 := by omega
    rw [hend]
    cases Scan.tokens [variableName] 0 (position + 2 * (k + 1) + 1) rest with
    | error e => rfl
    | ok ts =>
      have hposition : position + 1 + 2 * k + 1 = position + 2 * k + 2 := by omega
      simp [bind, Except.bind, pure, Except.pure, groupTree, Tree.yield, Tree.ofPrimary,
        Tree.ofProduct, Tree.factor, Mark.token, hposition]

/-- The text has the tokens of the tree. -/
theorem tokenize_groups (k : Nat) :
    tokenize [variableName] (groups k) = .ok (Tree.ofPrimary (groupTree k 0)).yield := by
  have hblank : (groupChars k).all Text.isBlank = false := by
    cases k <;> rfl
  have htokens := tokens_groupChars k 0 [] rfl
  rw [List.append_nil] at htokens
  rw [tokenize, groups, String.toList_ofList, hblank]
  simp only [htokens, Scan.tokens]
  simp [bind, Except.bind, pure, Except.pure, Tree.ofPrimary, Tree.ofProduct,
    Tree.factor, Tree.yield]

variable {bound : Nat} (gate : Nat → Except Error Unit) (x : Float)

/-- An expression that is a primary expression means what that means. -/
theorem Tree.meaning_ofPrimary (bindings : Bindings) (base : Tree .primary) (depth : Nat) :
    (Tree.ofPrimary base).meaning bindings gate depth = base.meaning bindings gate depth := by
  change ((base.meaning bindings gate depth >>= Except.ok) >>= Except.ok : Except Error Float) = _
  exact (bind_pure _).trans (bind_pure _)

/-- The tree means the point where all its parts are within the bound. -/
theorem meaning_groupTree (k : Nat) : ∀ depth position, depth + k ≤ bound →
    (groupTree k position).meaning [(variableName, x)] (Tree.withinBound bound) depth =
      (.ok x : Except Error Float) := by
  induction k with
  | zero => exact fun _ _ _ => rfl
  | succ k ih =>
    intro depth position h
    have hinside := ih (depth + 1) (position + 1) (by omega)
    exact Except.bind_eq_ok_iff.mpr ⟨(), Tree.withinBound_eq_ok_iff.mpr (by omega),
      (Tree.meaning_ofPrimary _ _ _ _).trans hinside⟩

/-- It is refused for its nesting where they are not. -/
theorem meaning_groupTree_refused (k : Nat) : ∀ depth position, depth ≤ bound → bound < depth + k →
    (groupTree k position).meaning [(variableName, x)] (Tree.withinBound bound) depth =
      (.error (.nestingExceeded (.whole bound)) : Except Error Float) := by
  induction k with
  | zero => exact fun _ _ h h' => absurd h' (by omega)
  | succ k ih =>
    intro depth position h h'
    -- the gate that refuses is here or further inside
    by_cases hd : depth + 1 ≤ bound
    · have hinside := ih (depth + 1) (position + 1) hd (by omega)
      exact Except.bind_eq_error_iff.mpr (.inr ⟨(), Tree.withinBound_eq_ok_iff.mpr hd,
        (Tree.meaning_ofPrimary _ _ _ _).trans hinside⟩)
    · exact Except.bind_eq_error_iff.mpr (.inl (if_neg hd))

end Grammar

/-- Whether a nesting bound is accepted and allows so many nested parts. -/
def Allows (bound : Int) (k : Nat) : Prop :=
  leastBound ≤ bound ∧ bound ≤ greatestBound ∧ k ≤ bound

/-- The template comes to what the tokens of its tree come to. -/
theorem evaluateAt_groups_eq (bound : Value) (k : Nat) (x : Float) :
    evaluateAt bound (groups k) x =
      Parser.outcome (Grammar.Tree.ofPrimary (Grammar.groupTree k 0)).yield [(variableName, x)]
        bound := by
  rw [evaluateAt, Parser.evaluateWith_eq]
  simp only [List.map_cons, List.map_nil, Grammar.tokenize_groups]
  rfl

variable {bound : Int} {k : Nat}

/-- **The variable in parentheses has its value** under a bound that allows
them. -/
theorem evaluateAt_groups (h : Allows bound k) (x : Float) :
    evaluateAt (.whole bound) (groups k) x = .ok x := by
  obtain ⟨hleast, hgreatest, hk⟩ := h
  rw [leastBound] at hleast
  rw [greatestBound] at hgreatest
  obtain ⟨n, rfl⟩ : ∃ n : Nat, bound = n := ⟨bound.toNat, by omega⟩
  rw [evaluateAt_groups_eq, Grammar.Tree.outcome_yield _ (by omega) (by omega)]
  exact (Grammar.Tree.meaning_ofPrimary _ _ _ _).trans
    (Grammar.meaning_groupTree x k 0 0 (by omega))

/-- And it has no value anywhere, for no fault of the point, under any other. -/
theorem evaluateAt_groups_refused (h : ¬ Allows bound k) :
    ∃ e, e.ofPoint = false ∧ e.breaksOff = false ∧
      ∀ x, evaluateAt (.whole bound) (groups k) x = .error e := by
  by_cases hb : leastBound ≤ bound ∧ bound ≤ greatestBound
  · have hk : ¬ k ≤ bound := fun hk => h ⟨hb.1, hb.2, hk⟩
    rw [leastBound, greatestBound] at hb
    obtain ⟨n, rfl⟩ : ∃ n : Nat, bound = n := ⟨bound.toNat, by omega⟩
    refine ⟨.nestingExceeded (.whole n), rfl, rfl, fun x => ?_⟩
    rw [evaluateAt_groups_eq, Grammar.Tree.outcome_yield _ (by omega) (by omega)]
    exact (Grammar.Tree.meaning_ofPrimary _ _ _ _).trans
      (Grammar.meaning_groupTree_refused x k 0 0 (by omega) (by omega))
  · refine ⟨.boundOutOfRange (.whole bound), rfl, rfl, fun x => ?_⟩
    rw [evaluateAt_groups_eq]
    exact Except.bind_eq_error_iff.mpr (.inl (Parser.new_refused hb))

end Reckon
