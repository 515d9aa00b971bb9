import Reckon.Proofs.Token.Text
/-!
# Token — the blanks between tokens

A token does not look further than it reaches for what a blank would hide: it
stays what it is in a text that is cut after it (`TokenAt.cut`), and so where a
blank comes after it. Hence the blanks of a text may be changed and others put
between its tokens, as long as none is closed up that parts two of them
(`Respaced`): the text spells the same (`Respaced.spells`).
-/

namespace Reckon

namespace Scan

variable {declared : List String} {position skip : Nat} {c : Char} {r s : List Char}
  {word : Lexeme} {more : Nat} {ts : List Token}

/-! ## Another text after a token -/

/-- Texts of which the second, where they come to differ, goes on with a blank or
ends. -/
def AgreeToBlank (r r' : List Char) : Prop :=
  ∃ s a a', r = s ++ a ∧ r' = s ++ a' ∧ a'.head?.all Text.isBlank = true

theorem AgreeToBlank.prepend {r' : List Char} (h : AgreeToBlank r r') (s : List Char) :
    AgreeToBlank (s ++ r) (s ++ r') := by
  obtain ⟨t, a, a', rfl, rfl, ha'⟩ := h
  exact ⟨s ++ t, a, a', by rw [List.append_assoc], by rw [List.append_assoc], ha'⟩

/-- **A token is there as well where another text comes after it** that goes on with
a blank where it differs. -/
theorem TokenAt.respaced {w r' : List Char} (h : TokenAt declared c (w ++ r) word w.length)
    (hr : AgreeToBlank r r') : TokenAt declared c (w ++ r') word w.length := by
  obtain ⟨s, a, a', rfl, rfl, ha'⟩ := hr
  rw [← List.append_assoc] at h ⊢
  have hcut := h.cut (by rw [List.length_append]; exact Nat.le_add_right _ _)
  cases a' with
  | nil => rwa [List.append_nil]
  | cons d a' =>
    have hblank : Text.isBlank d = true := by simpa using ha'
    have hseparator := isSeparator_of_isBlank hblank
    simp only [isSeparator, Bool.and_eq_true, Bool.not_eq_true', decide_eq_true_eq] at hseparator
    have hlexeme : lexeme declared 0 c (w ++ s) = .ok (word, w.length) := lexeme_of_tokenAt hcut
    exact tokenAt_of_lexeme ((lexeme_append hseparator.1.1 hseparator.2 fun _ =>
      takeWhile_append_cons hseparator.1.2).trans hlexeme)

/-! ## The characters of a token -/

theorem isBlank_of_isDigit (h : Decimal.isDigit c = true) : Text.isBlank c = false :=
  isBlank_of_isMantissa (isMantissa_of_isDigit h)

theorem isBlank_of_isNameChar (h : isNameChar c = true) : Text.isBlank c = false := by
  rw [Bool.eq_false_iff]
  intro hb
  have hseparator := isSeparator_of_isBlank hb
  rw [isSeparator, h, Bool.not_true, Bool.and_false] at hseparator
  cases hseparator

theorem isBlank_of_punctuation {kind : Symbol} (h : punctuation? c = some kind) :
    Text.isBlank c = false := by
  unfold punctuation? at h
  split at h <;> first | rfl | cases h

theorem isBlank_of_mem_exponentPart (h : c ∈ Decimal.exponentPart s) : Text.isBlank c = false := by
  cases s with
  | nil => cases h
  | cons letter s =>
    rw [exponentPart_cons] at h
    split at h
    · next hexponent =>
      rw [List.cons_append, List.mem_cons, List.mem_append] at h
      rcases h with rfl | h | h
      · rcases hexponent.1 with rfl | rfl <;> rfl
      · unfold Decimal.splitSign at h
        split at h
        · obtain rfl := List.mem_singleton.mp h
          rfl
        · obtain rfl := List.mem_singleton.mp h
          rfl
        · cases h
      · exact isBlank_of_isDigit (List.all_eq_true.mp List.all_takeWhile c h)
    · cases h

theorem isBlank_of_mem_literal (h : c ∈ literal s) : Text.isBlank c = false := by
  rcases List.mem_append.mp h with h | h
  · exact isBlank_of_isMantissa (List.all_eq_true.mp List.all_takeWhile c h)
  · exact isBlank_of_mem_exponentPart h

/-- What is at the start of a text, from the first character on. -/
theorem cons_take_of_starts (hs : s <+: c :: r) (hne : s ≠ []) :
    c :: r.take (s.length - 1) = s := by
  obtain ⟨d, s, rfl⟩ := List.exists_cons_of_ne_nil hne
  obtain ⟨rfl, htail⟩ := List.cons_prefix_cons.mp hs
  rw [List.length_cons, Nat.add_sub_cancel, ← List.prefix_iff_eq_take.mp htail]

theorem literal_ne_nil (h : isMantissa c = true) : literal (c :: r) ≠ [] := by
  rw [literal, List.takeWhile_cons_of_pos h, List.cons_append]
  exact List.cons_ne_nil _ _

theorem letters_ne_nil (h : isNameStart c = true) : (c :: r).takeWhile isNameChar ≠ [] := by
  have hchar : isNameChar c = true := by rw [isNameChar, h, Bool.true_or]
  rw [List.takeWhile_cons_of_pos hchar]
  exact List.cons_ne_nil _ _

/-- **No character of a token is blank.** -/
theorem TokenAt.not_blank (h : TokenAt declared c r word more) :
    ∀ d ∈ c :: r.take more, Text.isBlank d = false := by
  cases h with
  | number hmantissa =>
    rw [cons_take_of_starts (literal_starts _) (literal_ne_nil hmantissa)]
    exact fun d hd => isBlank_of_mem_literal hd
  | stars hstar hhead =>
    obtain ⟨r', rfl⟩ := List.head?_eq_some_iff.mp hhead
    subst hstar
    exact List.forall_mem_cons.mpr ⟨rfl, List.forall_mem_singleton.mpr rfl⟩
  | star hstar =>
    subst hstar
    exact List.forall_mem_singleton.mpr rfl
  | punctuation hkind =>
    rintro d hd
    obtain rfl := List.mem_singleton.mp hd
    exact isBlank_of_punctuation hkind
  | name hstart =>
    rw [cons_take_of_starts (List.takeWhile_prefix _) (letters_ne_nil hstart)]
    exact fun d hd => isBlank_of_isNameChar (List.all_eq_true.mp List.all_takeWhile d hd)

/-! ## Other blanks -/

/-- Characters that may stand between two tokens. -/
def IsGap (s : List Char) : Prop :=
  ∀ c ∈ s, Text.isBlank c = true

/-- Characters that a token may have. -/
def IsWord (s : List Char) : Prop :=
  s ≠ [] ∧ ∀ c ∈ s, Text.isBlank c = false

instance (s : List Char) : Decidable (IsGap s) :=
  decidable_of_iff (s.all Text.isBlank = true) List.all_eq_true

instance (s : List Char) : Decidable (IsWord s) :=
  decidable_of_iff (s ≠ [] ∧ s.all (! Text.isBlank ·) = true) (by simp [IsWord])

/-- Two texts with other blanks after their tokens. Both are made of the
characters of the tokens, which stand in the first text where they say, each with
blanks after it. Two tokens that blanks part in the first text are parted in the
second. -/
inductive RespacedFrom : (position : Nat) → List Token → List Char → List Char → Prop where
  /-- No more tokens. -/
  | last {position : Nat} : RespacedFrom position [] [] []
  /-- A token, and the blanks after it. -/
  | word {token : Token} {position : Nat} {word gap gap' rest rest' : List Char}
      {ts : List Token} :
      token.position = position → IsWord word → IsGap gap → IsGap gap' →
      (ts ≠ [] → gap ≠ [] → gap' ≠ []) →
      RespacedFrom (position + word.length + gap.length) ts rest rest' →
      RespacedFrom position (token :: ts) (word ++ (gap ++ rest)) (word ++ (gap' ++ rest'))

/-- Blanks are passed. -/
theorem tokens_gap {gap : List Char} (hgap : IsGap gap) (position : Nat) (r : List Char) :
    tokens declared 0 position (gap ++ r) = tokens declared 0 (position + gap.length) r := by
  induction gap generalizing position with
  | nil => rfl
  | cons c gap ih =>
    obtain ⟨hc, hgap⟩ := List.forall_mem_cons.mp hgap
    rw [List.cons_append, tokens, if_pos hc, ih hgap, List.length_cons, Nat.add_right_comm,
      Nat.add_assoc]

/-- The next token stands after the one that has been read. -/
theorem tokens_position (r : List Char) : ∀ {skip position : Nat} {token : Token} {ts : List Token},
    tokens declared skip position r = .ok (token :: ts) →
      (position + skip : Nat) ≤ token.position := by
  induction r with
  | nil =>
    intro skip position token ts h
    cases h
  | cons c r ih =>
    intro skip position token ts h
    cases skip with
    | succ skip =>
      have := ih h
      omega
    | zero =>
      rcases tokens_cons_eq_ok h with ⟨-, h⟩ | ⟨-, word, more, rest, hts, -, -⟩
      · have := ih h
        omega
      · cases hts
        exact Int.le_refl _

namespace RespacedFrom

variable {r' gap gap' rest rest' : List Char}

/-- Blanks may be put after a token that had none. -/
theorem insert {token : Token} (letters gap' : List Char) (hposition : token.position = position)
    (hletters : IsWord letters) (hgap' : IsGap gap')
    (hrest : RespacedFrom (position + letters.length) ts rest rest') :
    RespacedFrom position (token :: ts) (letters ++ rest) (letters ++ (gap' ++ rest')) :=
  word hposition hletters (List.forall_mem_nil _) hgap' (fun _ h => absurd rfl h) hrest

/-- After a token the texts agree up to a blank where they do from the next token on. -/
theorem agree_gap (hgap' : IsGap gap') (hparted : ts ≠ [] → gap ≠ [] → gap' ≠ [])
    (hrest : RespacedFrom position ts rest rest') (hagree : AgreeToBlank rest rest') :
    AgreeToBlank (gap ++ rest) (gap' ++ rest') := by
  cases gap' with
  | cons d gap' => exact ⟨[], _, _, rfl, rfl, hgap' d List.mem_cons_self⟩
  | nil =>
    cases hrest with
    | last => exact ⟨[], _, _, rfl, rfl, rfl⟩
    | word =>
      -- nothing parts the tokens in the second text, so nothing does in the first
      cases gap with
      | nil => exact hagree
      | cons d gap => exact absurd rfl (hparted (List.cons_ne_nil _ _) (List.cons_ne_nil d gap))

theorem agree (h : RespacedFrom position ts r r') : AgreeToBlank r r' := by
  induction h with
  | last => exact ⟨[], [], [], rfl, rfl, rfl⟩
  | word _ _ _ hgap' hparted hrest ih => exact (agree_gap hgap' hparted hrest ih).prepend _

section Taken

variable {w : List Char}
  (hrest : RespacedFrom (position + w.length + gap.length) ts rest rest')
  (hts : tokens declared more position (w ++ (gap ++ rest)) = .ok ts)

include hrest hts

/-- The scanner takes no less of a token than the layout says: it would leave a character
to start the next token too early. -/
theorem length_le_more (hw : ∀ d ∈ w, Text.isBlank d = false) : w.length ≤ more := by
  refine Nat.le_of_not_lt fun hlt => ?_
  obtain ⟨passed, d, left, rfl, rfl⟩ : ∃ passed d left,
      w = passed ++ d :: left ∧ passed.length = more :=
    ⟨w.take more, w[more], w.drop (more + 1),
      by rw [← List.drop_eq_getElem_cons hlt, List.take_append_drop],
      List.length_take_of_le (Nat.le_of_lt hlt)⟩
  rw [List.append_assoc, tokens_pass] at hts
  rcases tokens_cons_eq_ok hts with ⟨hb, -⟩ | ⟨-, word', more', ts', rfl, -, -⟩
  · rw [hw d (List.mem_append_right _ List.mem_cons_self)] at hb
    cases hb
  · cases hrest with
    | word hposition =>
      simp only [List.length_append, List.length_cons] at hposition
      omega

/-- And it takes no more: neither a blank, nor a character of the next token. -/
theorem more_le_length (hgap : IsGap gap)
    (htoken : TokenAt declared c (w ++ (gap ++ rest)) word more) : more ≤ w.length := by
  refine Nat.le_of_not_lt fun hgt => ?_
  cases gap with
  | cons d gap =>
    have hmem : d ∈ (w ++ (d :: gap ++ rest)).take more := by
      obtain ⟨k, hk⟩ : ∃ k, more - w.length = k + 1 := ⟨more - w.length - 1, by omega⟩
      rw [List.take_append, hk]
      exact List.mem_append_right _ List.mem_cons_self
    have hd := htoken.not_blank d (List.mem_cons_of_mem c hmem)
    rw [hgap d List.mem_cons_self] at hd
    cases hd
  | nil =>
    cases hrest with
    | last =>
      have hlength := htoken.more_le
      rw [List.append_nil, List.append_nil] at hlength
      omega
    | word hposition =>
      have hnext := tokens_position _ hts
      simp only [List.length_nil] at hposition
      omega

end Taken

/-- It spells the same where it does so token by token. -/
theorem spells (h : RespacedFrom position ts r r') : tokens declared 0 position r = .ok ts →
    Spells declared r' (ts.map (·.lexeme)) := by
  -- on the layout: each token is what it was, and what follows it spells the same
  induction h with
  | last =>
    intro _ position
    exact ⟨[], by rw [tokens], rfl⟩
  | @word token position letters gap gap' rest rest' ts _ hletters hgap hgap' hparted hrest ih =>
    intro h
    obtain ⟨hne, hletters⟩ := hletters
    obtain ⟨c, w, rfl⟩ := List.exists_cons_of_ne_nil hne
    obtain ⟨hc, hw⟩ := List.forall_mem_cons.mp hletters
    have hagree := agree_gap hgap' hparted hrest hrest.agree
    have hnext :
        position + (c :: w).length + gap.length = position + 1 + w.length + gap.length := by
      rw [List.length_cons]
      omega
    rw [hnext] at hrest ih
    rw [List.cons_append] at h ⊢
    rcases tokens_cons_eq_ok h with ⟨hb, -⟩ | ⟨-, word, more, ts', hts', hword, hmore⟩
    · rw [hc] at hb
      cases hb
    obtain ⟨rfl, rfl⟩ := List.cons.inj hts'
    have htoken := tokenAt_of_lexeme hword
    obtain rfl := Nat.le_antisymm (more_le_length hrest hmore hgap htoken)
      (length_le_more hrest hmore hw)
    rw [tokens_pass, tokens_gap hgap] at hmore
    intro position'
    obtain ⟨ts', hts', hwords⟩ := ih hmore (position' + 1 + w.length + gap'.length)
    refine ⟨⟨word, position'⟩ :: ts', ?_, by rw [List.map_cons, List.map_cons, hwords]⟩
    rw [tokens_cons hc (lexeme_of_tokenAt (htoken.respaced hagree)), tokens_pass, tokens_gap hgap',
      hts']
    rfl

end RespacedFrom

/-- **Every text with tokens is laid out,** and may keep its blanks. -/
theorem exists_respacedFrom (r : List Char) : ∀ {position : Nat} {ts : List Token},
    tokens declared 0 position r = .ok ts → ∃ lead r', IsGap lead ∧ r = lead ++ r' ∧
      RespacedFrom (position + lead.length) ts r' r' := by
  -- on the length: a token leaves what comes after all its characters
  induction hlength : r.length using Nat.strongRecOn generalizing r with
  | _ n ih =>
  subst hlength
  intro position ts h
  cases r with
  | nil =>
    rw [tokens] at h
    cases h
    exact ⟨[], [], List.forall_mem_nil _, rfl, .last⟩
  | cons c r =>
    rcases tokens_cons_eq_ok h with ⟨hb, h⟩ | ⟨hb, word, more, ts, rfl, hword, hmore⟩
    · obtain ⟨lead, r', hlead, rfl, hlaid⟩ := ih r.length (Nat.lt_succ_self _) r rfl h
      refine ⟨c :: lead, r', List.forall_mem_cons.mpr ⟨hb, hlead⟩, rfl, ?_⟩
      rwa [List.length_cons, Nat.add_comm lead.length, ← Nat.add_assoc]
    · have htoken := tokenAt_of_lexeme hword
      have hlength : (r.take more).length = more := List.length_take_of_le htoken.more_le
      rw [← List.take_append_drop more r] at hmore
      have hleft := tokens_pass (r := r.drop more) declared (r.take more) (position + 1)
      rw [hlength] at hleft
      rw [hleft] at hmore
      have hshorter : (r.drop more).length < (c :: r).length := by
        rw [List.length_drop, List.length_cons]
        omega
      obtain ⟨gap, r', hgap, hr', hlaid⟩ := ih _ hshorter (r.drop more) rfl hmore
      have hword' : IsWord (c :: r.take more) :=
        ⟨List.cons_ne_nil c _, htoken.not_blank⟩
      refine ⟨[], c :: r, List.forall_mem_nil _, rfl, ?_⟩
      have htext : c :: r = (c :: r.take more) ++ (gap ++ r') := by
        rw [← hr', List.cons_append, List.take_append_drop]
      rw [htext]
      refine .word rfl hword' hgap hgap (fun _ h => h) ?_
      rwa [List.length_cons, hlength, Nat.add_comm more, ← Nat.add_assoc]

/-- **Two texts with other blanks** before the first token, and after each. -/
def Respaced (ts : List Token) (s s' : List Char) : Prop :=
  ∃ lead lead' r r', IsGap lead ∧ IsGap lead' ∧ s = lead ++ r ∧ s' = lead' ++ r' ∧
    RespacedFrom lead.length ts r r'

theorem respaced_self (h : tokens declared 0 0 s = .ok ts) : Respaced ts s s := by
  obtain ⟨lead, r, hlead, rfl, hlaid⟩ := exists_respacedFrom s h
  rw [Nat.zero_add] at hlaid
  exact ⟨lead, lead, r, r, hlead, hlead, rfl, rfl, hlaid⟩

/-- **A text with other blanks spells the same.** -/
theorem Respaced.spells {s' : List Char} (h : Respaced ts s s')
    (hts : tokens declared 0 0 s = .ok ts) : Spells declared s' (ts.map (·.lexeme)) := by
  obtain ⟨lead, lead', r, r', hlead, hlead', rfl, rfl, hlaid⟩ := h
  rw [tokens_gap hlead, Nat.zero_add] at hts
  intro position
  rw [tokens_gap hlead']
  exact hlaid.spells hts (position + lead'.length)

end Scan

end Reckon
