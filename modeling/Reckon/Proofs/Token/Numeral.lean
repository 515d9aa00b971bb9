import Reckon.Proofs.Decimal.Literal
import Reckon.Proofs.Token.Reached
import Reckon.Proofs.Token.Tiling
/-!
# Token — the grammar of numeric literals

A numeral is all the digits and points that follow one another, with the longest
exponent after them, where there is one (`NumeralAt`). That is the text which the
scanner takes (`numeralAt_iff`), and it writes a number exactly if its mantissa has a
digit and not two points (`isSome_ofText?_iff`). So a scan that comes to a digit or a
point reads the numeral there as a number, if it is one of the doubles, and goes on
behind it; or else it fails for the numeral (`tokenize_numeral`).
-/

namespace Reckon

/-! ## The grammar -/

/-- **The longest text of a class** at the start of a text. -/
structure Longest (P : List Char → Prop) (s x : List Char) : Prop where
  mem : P x
  starts : x <+: s
  longest : ∀ y, P y → y <+: s → y.length ≤ x.length

/-- **An exponent:** its letter, a sign or none, and digits. -/
def IsExponent (x : List Char) : Prop :=
  ∃ letter sign digits, x = letter :: (sign ++ digits) ∧ (letter = 'e' ∨ letter = 'E') ∧
    (sign = [] ∨ sign = ['+'] ∨ sign = ['-']) ∧ digits ≠ [] ∧
    ∀ c ∈ digits, Decimal.isDigit c = true

/-- **The numeral `l` at the start of a text,** with the mantissa `m`: all the digits and
points that follow one another, and the longest exponent after them, where there is one. -/
structure NumeralAt (s m l : List Char) : Prop where
  mantissa : Longest (fun x => ∀ c ∈ x, Scan.isMantissa c = true) s m
  exponent :
    (∃ x, Longest IsExponent (s.drop m.length) x ∧ l = m ++ x) ∨
      (¬ ∃ x, IsExponent x ∧ x <+: s.drop m.length) ∧ l = m

/-- A mantissa that writes a number: some digit, and one point at most. -/
def IsMantissa (m : List Char) : Prop :=
  m.count '.' ≤ 1 ∧ ∃ c ∈ m, Decimal.isDigit c = true

/-- There is one longest text at most. -/
theorem Longest.unique {P : List Char → Prop} {s x y : List Char} (hx : Longest P s x)
    (hy : Longest P s y) : x = y := by
  have hlength : x.length = y.length :=
    Nat.le_antisymm (hy.longest x hx.mem hx.starts) (hx.longest y hy.mem hy.starts)
  exact (List.prefix_of_prefix_length_le hx.starts hy.starts (Nat.le_of_eq hlength)).eq_of_length
    hlength

/-- What a class takes of a text is the longest text of its characters. -/
theorem longest_takeWhile (p : Char → Bool) (s : List Char) :
    Longest (fun x => ∀ c ∈ x, p c = true) s (s.takeWhile p) where
  mem := List.all_eq_true.mp List.all_takeWhile
  starts := List.takeWhile_prefix p
  longest := by
    rintro y hy ⟨rest, rfl⟩
    rw [List.takeWhile_append_of_pos hy, List.length_append]
    exact Nat.le_add_right _ _

namespace Scan

open Decimal

variable {declared : List String} {c : Char} {s m l x : List Char}

/-! ## Exponents -/

theorem splitSign_sign (s : List Char) :
    (splitSign s).1 = [] ∨ (splitSign s).1 = ['+'] ∨ (splitSign s).1 = ['-'] := by
  unfold splitSign
  split
  · exact .inr (.inl rfl)
  · exact .inr (.inr rfl)
  · exact .inl rfl

/-- A sign ends where the digits start. -/
theorem splitSign_signed {sign digits rest : List Char}
    (hsign : sign = [] ∨ sign = ['+'] ∨ sign = ['-']) (hne : digits ≠ [])
    (hdigits : ∀ c ∈ digits, isDigit c = true) :
    splitSign (sign ++ digits ++ rest) = (sign, digits ++ rest) := by
  rcases hsign with rfl | rfl | rfl
  · rw [List.nil_append, splitSign_cut hne, splitSign_of_digits hdigits]
  · rfl
  · rfl

/-- **The scanner takes an exponent whole,** with all the digits that follow. -/
theorem exponentPart_isExponent (hx : IsExponent x) (rest : List Char) :
    exponentPart (x ++ rest) = x ++ rest.takeWhile isDigit := by
  obtain ⟨letter, sign, digits, rfl, hletter, hsign, hne, hdigits⟩ := hx
  have htaken : (digits ++ rest).takeWhile isDigit = digits ++ rest.takeWhile isDigit :=
    List.takeWhile_append_of_pos hdigits
  rw [List.cons_append, exponentPart_cons, splitSign_signed hsign hne hdigits, htaken,
    if_pos ⟨hletter, fun hnil => hne (List.append_eq_nil_iff.mp hnil).1⟩]
  simp only [List.cons_append, List.append_assoc]

theorem isExponent_exponentPart (h : exponentPart s ≠ []) : IsExponent (exponentPart s) := by
  cases s with
  | nil => exact absurd rfl h
  | cons letter s =>
    rw [exponentPart_cons] at h ⊢
    split at h
    · next hexponent =>
      rw [if_pos hexponent]
      exact ⟨letter, _, _, rfl, hexponent.1, splitSign_sign s, hexponent.2,
        List.all_eq_true.mp List.all_takeWhile⟩
    · exact absurd rfl h

/-- **What the scanner takes is the longest exponent,** where there is one. -/
theorem longest_exponentPart (h : exponentPart s ≠ []) :
    Longest IsExponent s (exponentPart s) where
  mem := isExponent_exponentPart h
  starts := exponentPart_starts s
  longest := by
    rintro y hy ⟨rest, rfl⟩
    rw [exponentPart_isExponent hy, List.length_append]
    exact Nat.le_add_right _ _

theorem exponentPart_eq_nil_iff : exponentPart s = [] ↔ ¬ ∃ x, IsExponent x ∧ x <+: s := by
  refine ⟨?_, fun h => Decidable.byContradiction fun hne => h ?_⟩
  · rintro h ⟨x, hx, rest, rfl⟩
    rw [exponentPart_isExponent hx] at h
    obtain ⟨letter, sign, digits, rfl, -⟩ := hx
    cases h
  · exact ⟨_, isExponent_exponentPart hne, exponentPart_starts s⟩

theorem exponent?_exponentPart (s : List Char) : ∃ e, exponent? (exponentPart s) = some e := by
  by_cases h : exponentPart s = []
  · exact ⟨0, by rw [h]; rfl⟩
  · obtain ⟨letter, sign, digits, hx, hletter, hsign, hne, hdigits⟩ := isExponent_exponentPart h
    have hsplit : splitSign (sign ++ digits ++ []) = (sign, digits ++ []) :=
      splitSign_signed hsign hne hdigits
    rw [List.append_nil, List.append_nil] at hsplit
    rw [hx, exponent?_cons, hsplit, if_pos ⟨hletter, hne, List.all_eq_true.mpr hdigits⟩]
    exact ⟨_, rfl⟩

/-! ## Numerals -/

/-- **The scanner takes the numeral.** -/
theorem numeralAt_iff : NumeralAt s m l ↔ m = s.takeWhile isMantissa ∧ l = literal s := by
  have hdrop : s.drop (s.takeWhile isMantissa).length = s.dropWhile isMantissa := by
    have hafter : (s.takeWhile isMantissa ++ s.dropWhile isMantissa).drop
        (s.takeWhile isMantissa).length = s.dropWhile isMantissa := List.drop_left
    rwa [List.takeWhile_append_dropWhile] at hafter
  constructor
  · rintro ⟨hmantissa, hexponent⟩
    obtain rfl := hmantissa.unique (longest_takeWhile isMantissa s)
    refine ⟨rfl, ?_⟩
    rw [hdrop] at hexponent
    rcases hexponent with ⟨x, hx, rfl⟩ | ⟨hnone, rfl⟩
    · have hne : exponentPart (s.dropWhile isMantissa) ≠ [] :=
        fun hnil => exponentPart_eq_nil_iff.mp hnil ⟨x, hx.mem, hx.starts⟩
      rw [literal, hx.unique (longest_exponentPart hne)]
    · rw [literal, exponentPart_eq_nil_iff.mpr hnone, List.append_nil]
  · rintro ⟨rfl, rfl⟩
    refine ⟨longest_takeWhile isMantissa s, ?_⟩
    rw [hdrop]
    by_cases h : exponentPart (s.dropWhile isMantissa) = []
    · exact .inr ⟨exponentPart_eq_nil_iff.mp h, by rw [literal, h, List.append_nil]⟩
    · exact .inl ⟨_, longest_exponentPart h, rfl⟩

/-- Digits and one point at most are digits, or digits on both sides of a point. -/
theorem mantissa_cases (hm : ∀ c ∈ m, isMantissa c = true) (hcount : m.count '.' ≤ 1) :
    (∀ c ∈ m, isDigit c = true) ∨ ∃ whole fraction, m = whole ++ '.' :: fraction ∧
      (∀ c ∈ whole, isDigit c = true) ∧ ∀ c ∈ fraction, isDigit c = true := by
  have hdigit {part : List Char} (hpart : part ⊆ m) (hnone : '.' ∉ part) :
      ∀ c ∈ part, isDigit c = true := by
    intro c hc
    rcases Bool.or_eq_true_iff.mp (hm c (hpart hc)) with h | h
    · exact h
    · rw [beq_iff_eq.mp h] at hc
      exact absurd hc hnone
  by_cases hpoint : '.' ∈ m
  · obtain ⟨whole, fraction, rfl⟩ := List.append_of_mem hpoint
    rw [List.count_append, List.count_cons_self] at hcount
    have hwhole : '.' ∉ whole := List.count_eq_zero.mp (by omega)
    have hfraction : '.' ∉ fraction := List.count_eq_zero.mp (by omega)
    refine .inr ⟨whole, fraction, rfl, hdigit (List.subset_append_left _ _) hwhole,
      hdigit (fun c hc => ?_) hfraction⟩
    exact List.mem_append_right _ (List.mem_cons_of_mem _ hc)
  · exact .inl (hdigit (List.Subset.refl m) hpoint)

/-- **A mantissa and an exponent are a literal** exactly if the mantissa writes a number. -/
theorem isSome_ofLiteral?_iff {e : Int} (hm : ∀ c ∈ m, isMantissa c = true)
    (he : exponent? x = some e) : (ofLiteral? (m ++ x)).isSome = true ↔ IsMantissa m := by
  by_cases hcount : m.count '.' ≤ 1
  · rcases mantissa_cases hm hcount with hdigits | ⟨whole, fraction, rfl, hwhole, hfraction⟩
    · cases m with
      | nil =>
        have hnone : ¬ IsMantissa [] := by
          rintro ⟨-, c, hc, -⟩
          cases hc
        refine iff_of_false ?_ hnone
        rcases exponent_cases he with rfl | ⟨c, rest, rfl, rfl | rfl⟩ <;> exact Bool.false_ne_true
      | cons c m =>
        rw [ofLiteral?_digits hdigits (List.cons_ne_nil c m) he]
        exact iff_of_true rfl ⟨hcount, c, List.mem_cons_self, hdigits c List.mem_cons_self⟩
    · rw [List.append_assoc, List.cons_append, ofLiteral?_mantissa hwhole hfraction he]
      by_cases hnone : whole = [] ∧ fraction = []
      · obtain ⟨rfl, rfl⟩ := hnone
        refine iff_of_false Bool.false_ne_true ?_
        rintro ⟨-, c, hc, hdigit⟩
        rw [List.mem_singleton.mp hc] at hdigit
        cases hdigit
      · rw [if_neg hnone]
        refine iff_of_true rfl ⟨hcount, ?_⟩
        by_cases hwhole' : whole = []
        · obtain ⟨c, fraction, rfl⟩ :=
            List.exists_cons_of_ne_nil fun hnil => hnone ⟨hwhole', hnil⟩
          exact ⟨c, by simp, hfraction c List.mem_cons_self⟩
        · obtain ⟨c, whole, rfl⟩ := List.exists_cons_of_ne_nil hwhole'
          exact ⟨c, List.mem_append_left _ List.mem_cons_self, hwhole c List.mem_cons_self⟩
  · refine iff_of_false (fun hsome => hcount ?_) fun h => hcount h.1
    obtain ⟨d, hd⟩ := Option.isSome_iff_exists.mp hsome
    have htaken := (takeWhile_literal hd).1
    rwa [takeWhile_mantissa hm he] at htaken

/-! ## The number of a numeral -/

theorem not_mem_literal : '_' ∉ literal s := by
  intro h
  rcases List.mem_append.mp h with h | h
  · cases List.all_eq_true.mp List.all_takeWhile _ h
  · obtain ⟨letter, sign, digits, hx, hletter, hsign, -, hdigits⟩ :=
      isExponent_exponentPart (List.ne_nil_of_mem h)
    rw [hx, List.mem_cons, List.mem_append] at h
    rcases h with rfl | h | h
    · simp at hletter
    · rcases hsign with rfl | rfl | rfl <;> simp at h
    · cases hdigits _ h

/-- A numeral writes what it is read as, and nothing else that a text may write. -/
theorem ofText?_literal (h : isMantissa c = true) (r : List Char) :
    Number.ofText? (String.ofList (literal (c :: r))) =
      (ofLiteral? (literal (c :: r))).map Decimal.toFloat := by
  have hblank : ∀ d ∈ literal (c :: r), Text.isBlank d = false := fun d => isBlank_of_mem_literal
  have hplain : Number.withoutUnderscores? (literal (c :: r)) = none :=
    if_pos (.inr (.inr (.inl not_mem_literal)))
  have hsigned : Number.signed? (literal (c :: r)) =
      (ofLiteral? (literal (c :: r))).map Decimal.toFloat := by
    rw [← cons_take_of_starts (literal_starts _) (literal_ne_nil h)]
    exact signed?_of_isMantissa h _
  rw [Number.ofText?, String.toList_ofList, trim_of_not_blank hblank, hplain, hsigned]
  cases ofLiteral? (literal (c :: r)) <;> rfl

/-- **A numeral writes a number** exactly if its mantissa does. -/
theorem isSome_ofText?_iff (h : isMantissa c = true) (r : List Char) :
    (Number.ofText? (String.ofList (literal (c :: r)))).isSome = true ↔
      IsMantissa ((c :: r).takeWhile isMantissa) := by
  obtain ⟨e, he⟩ := exponent?_exponentPart ((c :: r).dropWhile isMantissa)
  rw [ofText?_literal h, Option.isSome_map]
  exact isSome_ofLiteral?_iff (List.all_eq_true.mp List.all_takeWhile) he

/-- What the scanner reads is what the numeral writes, where that is finite. -/
theorem readFinite?_literal_iff (h : isMantissa c = true) {r : List Char} {v : Float} :
    readFinite? (literal (c :: r)) = some v ↔
      Number.ofText? (String.ofList (literal (c :: r))) = some v ∧ v.isFinite = true := by
  rw [ofText?_literal h, readFinite?]
  cases ofLiteral? (literal (c :: r)) with
  | none => simp
  | some d =>
    simp only [Option.map_some, Option.some.injEq]
    split
    · next hfinite =>
      refine ⟨fun hd => ?_, fun hd => congrArg _ hd.1⟩
      cases hd
      exact ⟨rfl, hfinite⟩
    · next hinfinite =>
      refine iff_of_false (fun h => by cases h) ?_
      rintro ⟨rfl, hfinite⟩
      exact hinfinite hfinite

end Scan

/-- **A numeral writes a finite double.** -/
structure Writes (m l : List Char) (v : Float) : Prop where
  isMantissa : IsMantissa m
  ofText : Number.ofText? (String.ofList l) = some v
  isFinite : v.isFinite = true

namespace Scan

open Decimal

variable {declared : List String} {position : Nat} {c : Char} {r : List Char} {v : Float}

/-- **The token at a digit or a point** is the number that the numeral there writes. -/
theorem tokenAt_number_iff (h : isMantissa c = true) :
    TokenAt declared c r (.number v) ((literal (c :: r)).length - 1) ↔
      Writes ((c :: r).takeWhile isMantissa) (literal (c :: r)) v := by
  constructor
  · intro htoken
    cases htoken with
    | number _ _ hread =>
      obtain ⟨htext, hfinite⟩ := (readFinite?_literal_iff h).mp hread
      refine ⟨(isSome_ofText?_iff h r).mp ?_, htext, hfinite⟩
      rw [htext]
      rfl
  · rintro ⟨hmantissa, htext, hfinite⟩
    exact .number h hmantissa.1 ((readFinite?_literal_iff h).mpr ⟨htext, hfinite⟩)

/-- **A numeral that writes no finite double** is refused: its mantissa, where that has two
points, and else the whole of it. -/
theorem refused_of_not_writes (h : isMantissa c = true)
    (hnone : ∀ v, ¬ Writes ((c :: r).takeWhile isMantissa) (literal (c :: r)) v) :
    Refused declared position c r (.invalidNumber (String.ofList
      (if 1 < ((c :: r).takeWhile isMantissa).count '.' then (c :: r).takeWhile isMantissa
        else literal (c :: r))) position) := by
  split
  · next hcount => exact .points h hcount
  · next hcount =>
    refine .literal h (Nat.le_of_not_lt hcount) ?_
    refine Option.eq_none_iff_forall_ne_some.mpr fun v hread => hnone v ?_
    have htoken : TokenAt [] c r (.number v) _ := .number h (Nat.le_of_not_lt hcount) hread
    exact (tokenAt_number_iff h).mp htoken

end Scan

/-- **Numeric literals are the numerals.** Where a scan comes to a digit or a point, there is
one numeral, and its text is a number exactly if its mantissa is one. If that number is
finite, then it is the token there, and the scan goes on right behind the numeral; and if
not, then the text fails for the numeral, or for its mantissa where that has two points. -/
theorem tokenize_numeral {declared : List String} {expression : String} {i : Nat}
    {ts : List Token} {c : Char} (hcomes : Scan.ComesTo declared expression.toList i ts)
    (hc : expression.toList[i]? = some c) (hstart : Decimal.isDigit c = true ∨ c = '.') :
    ∃ m l, (∀ m' l', NumeralAt (expression.toList.drop i) m' l' ↔ m' = m ∧ l' = l) ∧
      ((Number.ofText? (String.ofList l)).isSome = true ↔ IsMantissa m) ∧
      (∀ v, Scan.ComesTo declared expression.toList (i + l.length) (ts ++ [⟨.number v, i⟩]) ↔
        Writes m l v) ∧
      (∀ v, Writes m l v → tokenize declared expression = (do
        let us ← Scan.tokens declared 0 (i + l.length) (expression.toList.drop (i + l.length))
        return ts ++ ⟨.number v, i⟩ :: us)) ∧
      ((∀ v, ¬ Writes m l v) → tokenize declared expression =
        .error (.invalidNumber (String.ofList (if 1 < m.count '.' then m else l)) i)) := by
  have hmantissa : Scan.isMantissa c = true := by simpa [Scan.isMantissa] using hstart
  have hblank := Scan.isBlank_of_isMantissa hmantissa
  obtain ⟨hi, hc⟩ := List.getElem?_eq_some_iff.mp hc
  have hdrop := List.drop_eq_getElem_cons hi
  rw [hc] at hdrop
  generalize expression.toList.drop (i + 1) = r at hdrop
  -- the numeral is the character and some that follow it
  obtain ⟨rest, hrest⟩ := Scan.literal_starts (c :: r)
  obtain ⟨d, passed, hliteral⟩ :=
    List.exists_cons_of_ne_nil (Scan.literal_ne_nil (r := r) hmantissa)
  rw [hliteral, List.cons_append] at hrest
  obtain ⟨rfl, rfl⟩ := List.cons.inj hrest
  have hpassed : ∀ d' ∈ passed, Text.isBlank d' = false :=
    fun d' hd' => Scan.isBlank_of_mem_literal (hliteral ▸ List.mem_cons_of_mem d hd')
  have hwrites (v : Float) : Scan.ComesTo declared expression.toList
      (i + (Scan.literal (d :: (passed ++ rest))).length) (ts ++ [⟨.number v, i⟩]) ↔
        Writes ((d :: (passed ++ rest)).takeWhile Scan.isMantissa)
          (Scan.literal (d :: (passed ++ rest))) v := by
    have htoken : Scan.TokenAt declared d (passed ++ rest) (.number v) _ ↔ _ :=
      Scan.tokenAt_number_iff hmantissa
    rw [← htoken, hliteral]
    exact hcomes.token_iff hdrop hblank hpassed
  refine ⟨_, _, fun m l => by rw [hdrop]; exact Scan.numeralAt_iff,
    Scan.isSome_ofText?_iff hmantissa _, hwrites, fun v hv => ?_, fun hnone => ?_⟩
  · have hne : ts ++ [⟨.number v, (i : Int)⟩] ≠ [] := List.concat_ne_nil _ ts
    rw [((hwrites v).mpr hv).tokenize_eq hne]
    simp only [List.append_assoc, List.singleton_append]
  · exact hcomes.tokenize_of_refused hdrop hblank (Scan.refused_of_not_writes hmantissa hnone)

/-- After `1+` the exponent with a sign is part of the numeral, and the letter behind it is
a name. -/
theorem tokenize_numeral_exponent :
    Writes ".5".toList ".5e-3".toList 5e-4 ∧ tokenize [] "1+.5e-3e" = .ok
      [⟨.number 1, 0⟩, ⟨.symbol .operator "+", 1⟩, ⟨.number 5e-4, 2⟩,
        ⟨.symbol .constantName "e", 7⟩] := by
  have hone : Scan.TokenAt [] '1' ('+' :: ".5e-3e".toList) (.number 1) 0 :=
    .number rfl (by decide) rfl
  have hplus : Scan.TokenAt [] '+' ".5e-3e".toList (.symbol .operator "+") 0 := .punctuation rfl
  have hreads : Scan.Reads [] ".5e-3e".toList 0 ('1' :: ([] ++ '+' :: ([] ++ [])))
      [⟨.number 1, 0⟩, ⟨.symbol .operator "+", 1⟩] := .token rfl hone (.token rfl hplus .start)
  have hcomes : Scan.ComesTo [] "1+.5e-3e".toList 2
      [⟨.number 1, 0⟩, ⟨.symbol .operator "+", 1⟩] := hreads
  obtain ⟨m, l, hnumeral, -, -, htokens, -⟩ := tokenize_numeral hcomes rfl (.inr rfl)
  obtain ⟨rfl, rfl⟩ := (hnumeral ".5".toList ".5e-3".toList).mp (Scan.numeralAt_iff.mpr ⟨rfl, rfl⟩)
  have hwrites : Writes ".5".toList ".5e-3".toList 5e-4 :=
    ⟨⟨by decide, '5', by decide, rfl⟩, rfl, rfl⟩
  exact ⟨hwrites, htokens 5e-4 hwrites⟩

end Reckon
