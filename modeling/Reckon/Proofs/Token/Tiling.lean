import Reckon.Number.Read
import Reckon.Proofs.Token.Spacing
/-!
# Token — where the tokens of a text stand

Every character of a text that has tokens is accounted for: each token stands at a
place of its own (`Placed`), which holds no blank, and between the places there is
nothing but blanks (`Tiling`). What a token says is what is written at its place,
read as a number or sorted by its form alone (`Lexeme.IsOf`), and the place of the
token at a character is what the scanner takes for it (`TokenAt.isOf`). The scan of
the rest of a text tiles that rest (`exists_tiling`), so the tokens of a text tile
it (`tokenize_tiling`).
-/

namespace Reckon

/-! ## Texts of one token -/

/-- Whether a text has the form of a name. -/
def Scan.isName : List Char → Bool
  | [] => false
  | c :: rest => isNameStart c && rest.all isNameChar

/-- **The kind of a text** that is one token and no number: names by what they stand
for, the marks by themselves, and the spellings of the operators. -/
def Symbol.ofText? (declared : List String) (text : List Char) : Option Symbol :=
  if Scan.isName text then Scan.nameKind? declared (String.ofList text)
  else if text = ['('] then some .openParen
  else if text = [')'] then some .closeParen
  else if text = [','] then some .comma
  else if (Operator.ofSpelling? (String.ofList text)).isSome then some .operator
  else none

/-- **A text says a lexeme:** the finite double that it writes, or itself, under the
kind that it has. -/
def Lexeme.IsOf (declared : List String) (text : List Char) : Lexeme → Prop
  | number v => Number.ofText? (String.ofList text) = some v ∧ v.isFinite = true
  | symbol kind name => name = String.ofList text ∧ Symbol.ofText? declared text = some kind

/-! ## Places -/

/-- A lexeme, with the places of its first character and of the one after its last. -/
structure Placed where
  lexeme : Lexeme
  start : Nat
  stop : Nat

namespace Placed

/-- The token that it makes. -/
def token (word : Placed) : Token :=
  ⟨word.lexeme, word.start⟩

/-- What a text has at its place. -/
def text (word : Placed) (s : List Char) : List Char :=
  (s.drop word.start).take (word.stop - word.start)

/-- Whether a character is one of it. -/
def Covers (word : Placed) (i : Nat) : Prop :=
  word.start ≤ i ∧ i < word.stop

end Placed

/-- **Words tile a text** from some character on: one after the other, none of them
empty, and together they have all its characters but the blank ones. -/
structure Tiling (declared : List String) (s : List Char) (start : Nat) (words : List Placed) :
    Prop where
  start_le : ∀ word ∈ words, start ≤ word.start
  start_lt_stop : ∀ word ∈ words, word.start < word.stop
  stop_le : ∀ word ∈ words, word.stop ≤ s.length
  ordered : words.Pairwise (·.stop ≤ ·.start)
  blank_iff : ∀ i c, start ≤ i → s[i]? = some c →
    (Text.isBlank c = true ↔ ∀ word ∈ words, ¬ word.Covers i)
  isOf : ∀ word ∈ words, word.lexeme.IsOf declared (word.text s)

namespace Scan

variable {declared : List String} {c : Char} {r s : List Char} {word : Lexeme} {more start : Nat}

/-! ## The text of a token -/

/-- A text without spaces is left alone. -/
theorem trim_of_not_blank (h : ∀ c ∈ s, Text.isBlank c = false) : Text.trim Text.isSpace s = s := by
  have hnone (s : List Char) (hs : ∀ c ∈ s, Text.isBlank c = false) :
      s.dropWhile Text.isSpace = s := by
    cases s with
    | nil => rfl
    | cons c s =>
      refine List.dropWhile_cons_of_neg ?_
      rw [Text.isSpace, hs c List.mem_cons_self]
      exact Bool.false_ne_true
  rw [Text.trim, hnone s h, hnone s.reverse fun c hc => h c (List.mem_reverse.mp hc),
    List.reverse_reverse]

theorem code_lt_of_isMantissa (h : isMantissa c = true) : 46 ≤ c.toNat ∧ c.toNat < 58 := by
  rw [isMantissa, Decimal.isDigit, Bool.or_eq_true, Bool.and_eq_true, decide_eq_true_eq,
    decide_eq_true_eq, beq_iff_eq] at h
  rcases h with ⟨hlow, hhigh⟩ | rfl
  · have hlow : 48 ≤ c.toNat := hlow
    have hhigh : c.toNat ≤ 57 := hhigh
    omega
  · decide

/-- What starts as a number has no sign, and is no word for one. -/
theorem signed?_of_isMantissa (h : isMantissa c = true) (s : List Char) :
    Number.signed? (c :: s) = (Decimal.ofLiteral? (c :: s)).map Decimal.toFloat := by
  obtain ⟨hlow, hhigh⟩ := code_lt_of_isMantissa h
  have hsign : Number.splitMinus (c :: s) = (false, c :: s) := by
    unfold Number.splitMinus
    split
    · next heq =>
      rw [(List.cons.inj heq).1] at hlow
      exact absurd hlow (by decide)
    · next heq =>
      rw [(List.cons.inj heq).1] at hlow
      exact absurd hlow (by decide)
    · rfl
  have hlower : c.toLower = c := by
    refine dif_neg fun hupper => ?_
    have hupper : 65 ≤ c.toNat := hupper.1
    omega
  have hword (first : Char) (rest : List Char) (hfirst : 58 ≤ first.toNat) :
      String.ofList (Number.lowered (c :: s)) ≠ String.ofList (first :: rest) := by
    intro heq
    have hcons := String.ofList_injective heq
    rw [Number.lowered, List.map_cons, hlower] at hcons
    rw [(List.cons.inj hcons).1] at hhigh
    omega
  have hunsigned : Number.unsigned? (c :: s) =
      (Decimal.ofLiteral? (c :: s)).map Decimal.toFloat := by
    rw [Number.unsigned?]
    have hinf := hword 'i' ['n', 'f'] (by decide)
    have hinfinity := hword 'i' ['n', 'f', 'i', 'n', 'i', 't', 'y'] (by decide)
    have hnan := hword 'n' ['a', 'n'] (by decide)
    exact (if_neg (not_or.mpr ⟨hinf, hinfinity⟩)).trans (if_neg hnan)
  rw [Number.signed?, hsign]
  simp only [hunsigned, Bool.false_eq_true, if_false, Option.map_id']

/-- A literal writes the number that it is read as. -/
theorem isOf_number {v : Float} (h : isMantissa c = true)
    (hblank : ∀ d ∈ c :: s, Text.isBlank d = false)
    (hread : Decimal.readFinite? (c :: s) = some v) :
    (Lexeme.number v).IsOf declared (c :: s) := by
  rw [Decimal.readFinite?] at hread
  split at hread
  · next d hliteral =>
    split at hread
    · next hfinite =>
      cases hread
      refine ⟨?_, hfinite⟩
      rw [Number.ofText?, String.toList_ofList, trim_of_not_blank hblank, signed?_of_isMantissa h,
        hliteral]
      rfl
    · cases hread
  · cases hread

/-- All the characters that a name can have make a name. -/
theorem isName_takeWhile (h : isNameStart c = true) :
    isName ((c :: r).takeWhile isNameChar) = true := by
  have hchar : isNameChar c = true := by rw [isNameChar, h, Bool.true_or]
  rw [List.takeWhile_cons_of_pos hchar, isName, h, Bool.true_and, List.all_takeWhile]

/-- **A token says what is written** in the characters that it takes. -/
theorem TokenAt.isOf (h : TokenAt declared c r word more) :
    word.IsOf declared (c :: r.take more) := by
  have hblank := h.not_blank
  cases h with
  | number hmantissa _ hread =>
    rw [← cons_take_of_starts (literal_starts _) (literal_ne_nil hmantissa)] at hread
    exact isOf_number hmantissa hblank hread
  | stars hstar hhead =>
    obtain ⟨r', rfl⟩ := List.head?_eq_some_iff.mp hhead
    subst hstar
    exact ⟨rfl, rfl⟩
  | star hstar =>
    subst hstar
    exact ⟨rfl, rfl⟩
  | punctuation hkind =>
    refine ⟨rfl, ?_⟩
    unfold punctuation? at hkind
    split at hkind <;> cases hkind <;> rfl
  | name hstart hkind =>
    rw [cons_take_of_starts (List.takeWhile_prefix _) (letters_ne_nil hstart)]
    exact ⟨rfl, (if_pos (isName_takeWhile hstart)).trans hkind⟩

end Scan

/-! ## Tilings -/

namespace Tiling

variable {declared : List String} {c : Char} {r s : List Char} {start : Nat} {words : List Placed}

/-- The first character of what is left of a text. -/
theorem drop_eq_cons (h : s.drop start = c :: r) :
    start < s.length ∧ s[start]? = some c ∧ s.drop (start + 1) = r := by
  have hlength := congrArg List.length h
  rw [List.length_drop, List.length_cons] at hlength
  refine ⟨by omega, ?_, ?_⟩
  · rw [← List.head?_drop, h]
    rfl
  · rw [← List.drop_drop, h]
    rfl

/-- No words tile what there is after the end. -/
theorem nil (h : s.length ≤ start) : Tiling declared s start [] where
  start_le := nofun
  start_lt_stop := nofun
  stop_le := nofun
  ordered := .nil
  blank_iff i c hi hc := by
    rw [List.getElem?_eq_none (Nat.le_trans h hi)] at hc
    cases hc
  isOf := nofun

/-- A blank may come first. -/
theorem blank (h : Tiling declared s (start + 1) words) (hc : s[start]? = some c)
    (hblank : Text.isBlank c = true) : Tiling declared s start words where
  start_le word hword := Nat.le_of_succ_le (h.start_le word hword)
  start_lt_stop := h.start_lt_stop
  stop_le := h.stop_le
  ordered := h.ordered
  blank_iff i d hi hd := by
    rcases Nat.eq_or_lt_of_le hi with rfl | hlt
    · rw [hc] at hd
      cases hd
      refine iff_of_true hblank fun word hword hcovers => ?_
      exact absurd (h.start_le word hword) (Nat.not_lt.mpr hcovers.1)
    · exact h.blank_iff i d hlt hd
  isOf := h.isOf

/-- A word may come first, where no character of it is blank and it is what they say. -/
theorem cons {lexeme : Lexeme} {stop : Nat} (h : Tiling declared s stop words)
    (hlt : start < stop) (hle : stop ≤ s.length)
    (hblank : ∀ d ∈ Placed.text ⟨lexeme, start, stop⟩ s, Text.isBlank d = false)
    (hisOf : lexeme.IsOf declared (Placed.text ⟨lexeme, start, stop⟩ s)) :
    Tiling declared s start (⟨lexeme, start, stop⟩ :: words) where
  start_le := List.forall_mem_cons.mpr
    ⟨Nat.le_refl _, fun _ hnext => Nat.le_trans (Nat.le_of_lt hlt) (h.start_le _ hnext)⟩
  start_lt_stop := List.forall_mem_cons.mpr ⟨hlt, h.start_lt_stop⟩
  stop_le := List.forall_mem_cons.mpr ⟨hle, h.stop_le⟩
  ordered := List.pairwise_cons.mpr ⟨h.start_le, h.ordered⟩
  blank_iff i d hi hd := by
    rw [List.forall_mem_cons]
    rcases Nat.lt_or_ge i stop with hin | hout
    -- a character of the word
    · have hmem : d ∈ Placed.text ⟨lexeme, start, stop⟩ s := by
        have hindex : i - start < stop - start := Nat.sub_lt_sub_right hi hin
        refine List.mem_of_getElem? (i := i - start) ?_
        rw [Placed.text, List.getElem?_take_of_lt hindex, List.getElem?_drop,
          Nat.add_sub_cancel' hi, hd]
      rw [hblank d hmem]
      exact iff_of_false Bool.false_ne_true fun hnone => hnone.1 ⟨hi, hin⟩
    -- or one after it
    · rw [h.blank_iff i d hout hd]
      exact ⟨fun hnone => ⟨fun hcovers => absurd hcovers.2 (Nat.not_lt.mpr hout), hnone⟩, And.right⟩
  isOf := List.forall_mem_cons.mpr ⟨hisOf, h.isOf⟩

end Tiling

/-- **The scan tiles what is left of a text,** from the end of the token that is being
read. -/
theorem Scan.exists_tiling {declared : List String} {s : List Char} (r : List Char) :
    ∀ {skip position : Nat} {ts : List Token}, s.drop position = r → skip ≤ r.length →
      tokens declared skip position r = .ok ts →
      ∃ words, words.map Placed.token = ts ∧ Tiling declared s (position + skip) words := by
  induction r with
  | nil =>
    intro skip position ts hdrop hskip h
    cases h
    exact ⟨[], rfl, .nil (Nat.le_add_right_of_le (List.drop_eq_nil_iff.mp hdrop))⟩
  | cons c r ih =>
    intro skip position ts hdrop hskip h
    obtain ⟨hlt, hc, hrest⟩ := Tiling.drop_eq_cons hdrop
    cases skip with
    | succ skip =>
      obtain ⟨words, hwords, htiling⟩ := ih hrest (Nat.le_of_succ_le_succ hskip) h
      rw [Nat.add_right_comm, Nat.add_assoc] at htiling
      exact ⟨words, hwords, htiling⟩
    | zero =>
      rcases tokens_cons_eq_ok h with ⟨hb, h⟩ | ⟨hb, lexeme, more, ts, rfl, hlexeme, h⟩
      · obtain ⟨words, hwords, htiling⟩ := ih hrest (Nat.zero_le _) h
        exact ⟨words, hwords, htiling.blank hc hb⟩
      · have htoken := tokenAt_of_lexeme hlexeme
        obtain ⟨words, rfl, htiling⟩ := ih hrest htoken.more_le h
        have hmore := htoken.more_le
        have htext :
            Placed.text ⟨lexeme, position, position + 1 + more⟩ s = c :: r.take more := by
          rw [Placed.text, hdrop, Nat.add_assoc, Nat.add_sub_cancel_left, Nat.add_comm 1]
          rfl
        have hstop : position + 1 + more ≤ s.length := by
          rw [← hrest, List.length_drop] at hmore
          omega
        rw [Nat.add_zero]
        refine ⟨⟨lexeme, position, position + 1 + more⟩ :: words, rfl, ?_⟩
        refine htiling.cons (by omega) hstop ?_ ?_
        · rw [htext]
          exact htoken.not_blank
        · rw [htext]
          exact htoken.isOf

/-- **The tokens of a text tile it.** There are some, and each has a place of its own,
one after the other, that holds what it says and no blank, while all that no token
holds is blank. -/
theorem tokenize_tiling {declared : List String} {expression : String} {ts : List Token}
    (h : tokenize declared expression = .ok ts) :
    ts ≠ [] ∧ ∃ words, words.map Placed.token = ts ∧
      Tiling declared expression.toList 0 words := by
  obtain ⟨htokens, hne⟩ := Scan.tokenize_eq_ok_iff.mp h
  exact ⟨hne, Scan.exists_tiling _ List.drop_zero (Nat.zero_le _) htokens⟩

/-- So the exponent, both stars and the name have their characters, and the blanks are
left over. -/
theorem tokenize_tiling_power : ∃ words,
    words.map Placed.token =
      [⟨.number 2e5, 1⟩, ⟨.symbol .operator "**", 4⟩, ⟨.symbol .variableName "x", 7⟩] ∧
    Tiling ["x"] " 2e5**\tx ".toList 0 words := by
  have htokens : tokenize ["x"] " 2e5**\tx " = .ok
      [⟨.number 2e5, 1⟩, ⟨.symbol .operator "**", 4⟩, ⟨.symbol .variableName "x", 7⟩] := rfl
  exact (tokenize_tiling htokens).2

end Reckon
