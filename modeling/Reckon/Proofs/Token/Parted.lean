import Reckon.Proofs.Token.Spacing
/-!
# Token — texts parted by blanks

No token goes on over a blank, so texts that blanks part are read one after the
other: the first is read, or fails, as it does by itself, and the second as it does
by itself, further on (`tokens_parted`). A blank text has no tokens to add
(`tokensOrNone`). Hence many texts with a space between every two have the tokens of
each, one after the other (`tokens_intercalate`).
-/

namespace Reckon

namespace Scan

variable {declared : List String}

/-- **The tokens of a text, none where it is blank.** -/
def tokensOrNone (declared : List String) (s : String) : Except Error (List Token) :=
  match tokenize declared s with
  | .error .emptyExpression => .ok []
  | outcome => outcome

/-- They are the tokens of its characters. -/
theorem tokensOrNone_eq (s : String) : tokensOrNone declared s = tokens declared 0 0 s.toList := by
  rw [tokensOrNone, tokenize_eq]
  cases hts : tokens declared 0 0 s.toList with
  | error e =>
    have he : e ≠ .emptyExpression := by
      rintro rfl
      exact tokens_ne_emptyExpression _ 0 0 hts
    cases e <;> first | rfl | exact absurd rfl he
  | ok ts => cases ts <;> rfl

/-- **Texts parted by blanks** are read one after the other. -/
theorem tokens_parted {w : List Char} (hw : IsGap w) (hne : w ≠ []) (a b : List Char) :
    tokens declared 0 0 (a ++ (w ++ b)) = (do
      let ts ← tokens declared 0 0 a
      let rest ← moved (a.length + w.length) (tokens declared 0 0 b)
      return ts ++ rest) := by
  have hrest : tokens declared 0 (0 + a.length) (w ++ b) =
      moved (a.length + w.length) (tokens declared 0 0 b) := by
    rw [tokens_gap hw, Nat.add_assoc, tokens_moved]
  obtain ⟨d, w, rfl⟩ := List.exists_cons_of_ne_nil hne
  have hd : isSeparator d = true := isSeparator_of_isBlank (hw d List.mem_cons_self)
  rw [List.cons_append] at hrest ⊢
  rw [tokens_append hd a 0 0 (Nat.zero_le _), hrest]

/-- **The tokens of many texts,** one after the other, each at its place in the text
that has them all with a space between every two. -/
def joined (declared : List String) : List String → Except Error (List Token)
  | [] => .ok []
  | part :: rest => do
    let ts ← tokensOrNone declared part
    return ts ++ (← moved (part.length + 1) (joined declared rest))

theorem tokens_intercalate (parts : List String) :
    tokens declared 0 0 (" ".intercalate parts).toList = joined declared parts := by
  induction parts with
  | nil => rfl
  | cons part rest ih =>
    rw [joined, tokensOrNone_eq]
    cases rest with
    | nil =>
      rw [String.intercalate_singleton]
      cases tokens declared 0 0 part.toList with
      | error e => rfl
      | ok ts => exact congrArg Except.ok (List.append_nil ts).symm
    | cons next rest =>
      have hspace : IsGap " ".toList := by decide
      rw [String.intercalate_cons_cons, String.toList_append, String.toList_append,
        List.append_assoc, tokens_parted hspace (by decide), ih, String.length_toList]
      rfl

/-- **Two texts parted by blanks,** and what they come to. The first fails as it does by
itself; if it does not fail or is blank, the second does, further on; else the tokens
are those of the first and, further on, those of the second, unless there are none. -/
theorem tokenize_append {a w b : String} (hne : w ≠ "")
    (hw : ∀ c ∈ w.toList, Text.isBlank c = true) :
    (∀ e, e ≠ .emptyExpression → tokenize declared a = .error e →
      tokenize declared (a ++ w ++ b) = .error e) ∧
    (∀ ts e, tokensOrNone declared a = .ok ts → e ≠ .emptyExpression →
      tokenize declared b = .error e →
      tokenize declared (a ++ w ++ b) = .error (e.moved (a.length + w.length))) ∧
    ∀ ts us, tokensOrNone declared a = .ok ts → tokensOrNone declared b = .ok us →
      tokenize declared (a ++ w ++ b) =
        someToken (ts ++ us.map (Token.moved (a.length + w.length))) := by
  have hne' : w.toList ≠ [] := fun h => hne (String.toList_eq_nil_iff.mp h)
  have hparted := @tokens_parted declared w.toList hw hne' a.toList b.toList
  rw [← List.append_assoc, ← String.toList_append, ← String.toList_append,
    String.length_toList, String.length_toList] at hparted
  simp only [tokensOrNone_eq]
  refine ⟨fun e he ha => ?_, fun ts e ha he hb => ?_, fun ts us ha hb => ?_⟩
  · rw [tokenize_eq_error_iff he] at ha ⊢
    rw [hparted, ha]
    rfl
  · have he' : e.moved (a.length + w.length) ≠ .emptyExpression := by
      cases e <;> first | exact absurd rfl he | rintro ⟨⟩
    rw [tokenize_eq_error_iff he] at hb
    rw [tokenize_eq_error_iff he', hparted, ha, hb]
    rfl
  · rw [tokenize_eq, hparted, ha, hb]
    rfl

end Scan

end Reckon
