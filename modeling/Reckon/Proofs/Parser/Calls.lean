import Reckon.Proofs.Grammar.Soundness
import Reckon.Proofs.Parser.HigherBound
import Reckon.Proofs.Parser.Within
/-!
# Parser — calls in a row

A parser goes on from where its last call left it, also after an error. Whatever is
called, a call leaves the tokens, the bindings and the bound as they are, moves the
cursor onward and not beyond the end, and past a token at least where it has a value
(`call_orderly`). The depth is what it was: a nested part that is entered is left again,
however it ends; only the part that the bound refuses stays counted (`rulesCount`). So
after any calls in a row the depth is the number of those that were refused
(`calls_orderly`).
-/

namespace Reckon

namespace Parser

open Grammar

variable {α β : Type} {input : Input} {c c' : Cursor} {v : Float}

/-! ## The depth -/

/-- The parts that a stop leaves counted. -/
def Stop.counted : Stop → Nat
  | error e => e.isNesting.toNat
  | overflow => 0

/-- **A step counts its parts:** the depth is as before, but for a part that the bound
refuses. -/
def Counts (a : Action α) (c : Cursor) : Prop :=
  match a c with
  | .ok _ c' => c'.depth = c.depth
  | .error stop c' => c'.depth = c.depth + stop.counted

namespace Counts

/-- One step after another. -/
theorem bind {a : Action α} {f : α → Action β} (ha : Counts a c)
    (hf : ∀ v c', Counts (f v) c') : Counts (a >>= f) c := by
  rw [Counts] at ha ⊢
  rw [bind_apply]
  rcases hv : a c with ⟨v, c₁⟩ | ⟨stop, c₁⟩
  · rw [hv] at ha
    have hrest := hf v c₁
    rwa [Counts, ha] at hrest
  · rwa [hv] at ha

/-- A part that is entered counts one more, which is taken back where it is left. -/
theorem nested {a : Action α} (ha : ∀ c, Counts a c) : Counts (nested input a) c := by
  rw [Counts]
  rcases Nat.lt_or_ge input.levels (c.depth + 1) with hl | hl
  · rw [nested_of_lt a hl]
    rfl
  · have hinside := ha c.inside
    rw [Counts, Cursor.inside_depth] at hinside
    rw [nested_of_le a hl]
    rcases hv : a c.inside with ⟨v, c₁⟩ | ⟨stop, c₁⟩
    · rw [hv] at hinside
      simp only [Cursor.outside_depth] at hinside ⊢
      omega
    · rw [hv] at hinside
      simp only [Cursor.outside_depth] at hinside ⊢
      omega

theorem inherited : Inherited input fun _ => Counts where
  pure _ _ := rfl
  fail c _ hnesting := by
    rw [Counts, fail_apply]
    simp only [Stop.counted, hnesting, Bool.toNat_false, Nat.add_zero]
  overflow _ := rfl
  look ha hf := by
    rw [Counts, bind_apply, ha]
    exact hf
  past _ hf := hf _
  bind := bind
  nested _ := nested

end Counts

/-- **The rules count their parts,** in however many calls. -/
theorem rulesCount (input : Input) (calls : Nat) : RulesInherit input (fun _ => Counts) calls :=
  rulesInherit Counts.inherited calls

/-! ## The cursor -/

theorem Onward.inherited : Inherited input fun _ => Onward where
  pure v _ := pure v
  fail _ _ _ := Nat.le_refl _
  overflow _ := Nat.le_refl _
  look := look
  past _ hf := past fun _ => hf
  bind := bind
  nested c ha := by
    rcases Nat.lt_or_ge input.levels (c.depth + 1) with hl | hl
    · rw [Onward, nested_of_lt _ hl]
      exact Nat.le_refl _
    · rw [Onward, endOf_nested_index hl]
      exact ha c.inside

/-- **The rules go onward,** in however many calls. -/
theorem rulesOnward (input : Input) (calls : Nat) : RulesInherit input (fun _ => Onward) calls :=
  rulesInherit Onward.inherited calls

/-- What stands for a value has a token. -/
theorem index_lt_of_yield {p : Part} (t : Tree p) (hp : p.isOperand)
    (h : input.rest c = t.yield ++ input.rest c') : c.index < c'.index := by
  obtain ⟨token, hhead, -⟩ := operand_head t hp []
  rw [List.append_nil] at hhead
  have hpos : 0 < t.yield.length := List.length_pos_of_mem (List.mem_of_mem_head? hhead)
  have hlength := congrArg List.length h
  rw [List.length_append, length_rest, length_rest] at hlength
  omega

/-- So has a step that derives such a part under another bound, and the same step under
this one. -/
theorem index_lt_of_lockstep {input' : Input} {bound : Nat} {p : Part} {a a' : Action Float}
    {result : p.Meaning → Except Error Float} (hp : p.isOperand)
    (hd : Derives input' bound p a' result) (htokens : input'.tokens = input.tokens)
    (hstep : Lockstep Stop.ofNesting (fun _ => False) Eq (a c) (a' c)) (h : a c = .ok v c') :
    c.index < c'.index := by
  have hrest (c : Cursor) : input'.rest c = input.rest c := by
    rw [Input.rest, htokens, Input.rest]
  rw [h] at hstep
  generalize hrun : a' c = run at hstep
  cases hstep with
  | values hvalue =>
    obtain ⟨t, hyield, -⟩ := hd hrun
    rw [hrest, hrest] at hyield
    exact index_lt_of_yield t hp hyield
  | right hstop => exact hstop.elim

/-- **A rule that has a value has moved past a token,** wherever it started. -/
theorem rule_index_lt (r : Rule) {calls : Nat} (h : r.action input calls c = .ok v c') :
    c.index < c'.index := by
  -- the trees are those of whole bounds, and the levels are all that counts of a bound
  let input' : Input := ⟨input.tokens, input.bindings, .whole input.levels⟩
  have hlevels : input.bound.floor.toNat ≤ (Quantity.whole input.levels).floor.toNat :=
    Nat.le_of_eq (Int.toNat_natCast input.levels).symm
  have hstep := rulesInStep (alike_of_levels input.tokens input.bindings hlevels)
    (Nat.le_refl calls)
  have hderive : RulesDerive input' input.levels calls := rulesDerive rfl calls
  cases r with
  | expression => exact index_lt_of_lockstep rfl hderive.expression rfl (hstep.expression c) h
  | additive => exact index_lt_of_lockstep rfl hderive.additive rfl (hstep.additive c) h
  | multiplicative =>
    exact index_lt_of_lockstep rfl hderive.multiplicative rfl (hstep.multiplicative c) h
  | unary => exact index_lt_of_lockstep rfl hderive.unary rfl (hstep.unary c) h
  | exponent => exact index_lt_of_lockstep rfl hderive.exponent rfl (hstep.exponent c) h
  | primary => exact index_lt_of_lockstep rfl hderive.primary rfl (hstep.primary c) h

/-! ## One call -/

/-- Whether an answer is the refusal of a nested part. -/
def isRefusal : Except Error Float → Bool
  | .error e => e.isNesting
  | .ok _ => false

/-- **A parser keeps order** where it answers a call: it goes on to read the same, forward
and not beyond the end, and counts what it refuses. -/
structure Orderly (p : Parser) (call : Call) (answer : Except Error Float × Parser) : Prop where
  input : answer.2.input = p.input
  onward : p.cursor.index ≤ answer.2.cursor.index
  within : answer.2.cursor.index ≤ p.input.tokens.size
  /-- A value takes a token at least, -/
  progress (v : Float) : answer.1 = .ok v → p.cursor.index < answer.2.cursor.index
  /-- and that of the whole sequence takes them all. -/
  complete (v : Float) : call = .parse → answer.1 = .ok v →
    answer.2.cursor.index = p.input.tokens.size
  /-- Parentheses that do not balance are refused before anything is read. -/
  unbalanced : call = .parse → balanced p.input.tokens.toList = false →
    answer = (.error .unmatchedParentheses, p)
  depth : answer.2.cursor.depth = p.cursor.depth + (isRefusal answer.1).toNat

/-- A rule is answered in order. -/
theorem rule_orderly (p : Parser) (r : Rule) (h : p.cursor.index ≤ p.input.tokens.size) :
    Orderly p (.rule r) (p.rule r) := by
  have honward := (rulesOnward p.input (callLimit p.input.levels)).action r p.cursor
  have hwithin := (rulesWithin p.input (callLimit p.input.levels)).action r p.cursor h
  have hdepth := (rulesCount p.input (callLimit p.input.levels)).action r p.cursor
  rw [Onward] at honward
  rw [Counts] at hdepth
  rw [rule, run]
  rcases hrun : r.action p.input (callLimit p.input.levels) p.cursor with ⟨v, c⟩ | ⟨e | -, c⟩
  · rw [hrun] at honward hwithin hdepth
    exact {
      input := rfl
      onward := honward
      within := hwithin
      progress := fun _ _ => rule_index_lt r hrun
      complete := by rintro v ⟨⟩
      unbalanced := by rintro ⟨⟩
      depth := hdepth }
  · rw [hrun] at honward hwithin hdepth
    exact {
      input := rfl
      onward := honward
      within := hwithin
      progress := by rintro v ⟨⟩
      complete := by rintro v ⟨⟩
      unbalanced := by rintro ⟨⟩
      depth := hdepth }
  · exact absurd hrun (rule_not_overflow p.input r p.cursor c)

/-- And so is `parse`: it reads nothing, or what the rule for an expression reads. -/
theorem parse_orderly (p : Parser) (h : p.cursor.index ≤ p.input.tokens.size) :
    Orderly p .parse p.parse := by
  by_cases hb : balanced p.input.tokens.toList = true
  · have hrule := rule_orderly p .expression h
    rw [parse, checkParentheses, if_pos hb]
    rcases hrun : p.rule .expression with ⟨e | v, after⟩
    · rw [hrun] at hrule
      exact { hrule with
        complete := by rintro v - ⟨⟩
        unbalanced := fun _ hb' => Bool.noConfusion (hb.symm.trans hb') }
    · rw [hrun] at hrule
      simp only
      split
      · exact { hrule with
          progress := by rintro v ⟨⟩
          complete := by rintro v - ⟨⟩
          unbalanced := fun _ hb' => Bool.noConfusion (hb.symm.trans hb') }
      · next hend =>
        have hinput : after.input = p.input := hrule.input
        rw [hinput] at hend
        exact { hrule with
          complete := fun _ _ _ => Nat.le_antisymm hrule.within (Nat.le_of_not_lt hend)
          unbalanced := fun _ hb' => Bool.noConfusion (hb.symm.trans hb') }
  · rw [parse, checkParentheses, if_neg hb]
    exact {
      input := rfl
      onward := Nat.le_refl _
      within := h
      progress := by rintro v ⟨⟩
      complete := by rintro v - ⟨⟩
      unbalanced := fun _ _ => rfl
      depth := rfl }

/-- **Every call is answered in order,** whatever the depth has come to. -/
theorem call_orderly (p : Parser) (c : Call) (h : p.cursor.index ≤ p.input.tokens.size) :
    Orderly p c (p.call c) := by
  cases c with
  | parse => exact parse_orderly p h
  | rule r => exact rule_orderly p r h

/-! ## Calls in a row -/

/-- The parser after calls in turn. -/
def after (p : Parser) : List Call → Parser
  | [] => p
  | c :: rest => (p.call c).2.after rest

/-- Further calls are answered where the calls before have left the parser. -/
theorem calls_append (done next : List Call) : ∀ p : Parser,
    p.calls (done ++ next) = p.calls done ++ (p.after done).calls next := by
  induction done with
  | nil => exact fun _ => rfl
  | cons c done ih =>
    intro p
    rw [List.cons_append, calls, calls, after, ih]
    rfl

/-- **Calls in a row** leave what is read as it is and the cursor within the tokens, and
add their refusals to the depth. -/
theorem after_orderly (done : List Call) : ∀ p : Parser, p.cursor.index ≤ p.input.tokens.size →
    (p.after done).input = p.input ∧
      (p.after done).cursor.index ≤ p.input.tokens.size ∧
      (p.after done).cursor.depth = p.cursor.depth + (p.calls done).countP (isRefusal ·.1) := by
  induction done with
  | nil => exact fun p h => ⟨rfl, h, rfl⟩
  | cons c done ih =>
    intro p h
    have hcall := call_orderly p c h
    have hwithin := hcall.within
    obtain ⟨hinput, hindex, hdepth⟩ := ih (p.call c).2 (by rwa [hcall.input])
    rw [after, calls, List.countP_cons]
    refine ⟨hinput.trans hcall.input, ?_, ?_⟩
    · rwa [← hcall.input]
    · rw [hdepth, hcall.depth, Nat.add_assoc, Nat.add_comm (Bool.toNat _)]
      cases isRefusal (p.call c).1 <;> rfl

/-- **A parser keeps order in every sequence of calls.** Whatever the calls before came
to, the next one is answered in order where they have left the parser; what is read is
still the same, and the depth is the number of nested parts refused so far. -/
theorem calls_orderly {tokens : List Token} {bindings : Bindings} {bound : Value} {p : Parser}
    (hp : Parser.new tokens bindings bound = .ok p) (done : List Call) (next : Call) :
    p.calls (done ++ [next]) = p.calls done ++ [(p.after done).call next] ∧
      Orderly (p.after done) next ((p.after done).call next) ∧
      (p.after done).input = p.input ∧
      (p.after done).cursor.depth = (p.calls done).countP (isRefusal ·.1) := by
  obtain ⟨e, hnew⟩ | ⟨q, hnew⟩ := new_cases tokens bound
  · cases (hnew bindings).symm.trans hp
  · obtain rfl := Except.ok.inj ((hnew bindings).symm.trans hp)
    let start : Parser := ⟨⟨tokens.toArray, bindings, q⟩, ⟨0, 0⟩⟩
    obtain ⟨hinput, hindex, hdepth⟩ := after_orderly done start (Nat.zero_le _)
    refine ⟨calls_append done [next] _, call_orderly _ next ?_, hinput, ?_⟩
    · rwa [hinput]
    · rw [hdepth, Nat.zero_add]

/-- The tokens of `--7`. -/
def doublySigned : List Token :=
  [⟨.symbol .operator "-", 0⟩, ⟨.symbol .operator "-", 1⟩, ⟨.number 7, 2⟩]

/-- Under a bound of one the second sign is refused and stays counted; the parser stands
past it, where an operand is read. -/
theorem doublySigned_orderly :
    ∃ p after, Parser.new doublySigned [] (.whole 1) = .ok p ∧ p.after [.parse] = after ∧
      after.cursor = ⟨2, 1⟩ ∧ after.cursor.depth = (p.calls [.parse]).countP (isRefusal ·.1) ∧
      (after.call (.rule .primary)).1 = .ok 7 ∧
      after.cursor.index < (after.call (.rule .primary)).2.cursor.index := by
  have hp : Parser.new doublySigned [] (.whole 1) = .ok (fresh doublySigned [] 1) := rfl
  obtain ⟨-, horderly, -, hdepth⟩ := calls_orderly hp [.parse] (.rule .primary)
  have hvalue : (((fresh doublySigned [] 1).after [.parse]).call (.rule .primary)).1 = .ok 7 := rfl
  exact ⟨_, _, hp, rfl, rfl, hdepth, hvalue, horderly.progress _ hvalue⟩

end Parser

end Reckon
