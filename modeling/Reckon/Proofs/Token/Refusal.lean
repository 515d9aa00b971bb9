import Reckon.Proofs.Token.Parted
import Reckon.Proofs.Token.Reached
/-!
# Token — where a text fails

The error of a text tells what stands at a place that the scan has come to: a character
that starts no token, a literal, or a name that stands for nothing (`Error.PointsAt`,
`tokenize_error_pointsAt`). A character and a literal come with their place, so the
error points there and nowhere else. A name comes without one, and the same letters may
end a token further in front, so the error of a name may point at other places too
(`unknownName_points_twice`); but none of these is one that the scan comes to, and they
all lie before the one where it fails.
-/

namespace Reckon

/-! ## Places -/

/-- No token starts with a character, whatever is declared and follows it. -/
def Scan.StartsNone (c : Char) : Prop :=
  ∀ declared rest word more, ¬ TokenAt declared c rest word more

/-- **An error describes what stands at a place** of a text. -/
inductive Error.Describes (declared : List String) (s : List Char) (p : Nat) : Error → Prop where
  /-- The character there starts no token. -/
  | character {c : Char} : s[p]? = some c → Scan.StartsNone c →
      Describes declared s p (.invalidCharacter c p)
  /-- The literal stands there, and starts with a digit or a point. -/
  | number {c : Char} {literal : List Char} : c :: literal <+: s.drop p →
      Scan.isMantissa c = true →
      Describes declared s p (.invalidNumber (String.ofList (c :: literal)) p)
  /-- The name is all the characters from there on that a name can have, and is neither a
  constant, nor a function, nor declared. -/
  | name {c : Char} {text : String} : s[p]? = some c → Scan.isNameStart c = true →
      text = String.ofList ((s.drop p).takeWhile Scan.isNameChar) →
      constant? text = none → Builtin.ofName? text = none → text ∉ declared →
      Describes declared s p (.unknownName text)

/-- **An error points at a place** of a text: the text before the place has tokens or is
blank, no blank stands there, and the error describes what does. -/
structure Error.PointsAt (declared : List String) (s : List Char) (p : Nat) (e : Error) :
    Prop where
  before : ∃ ts, Scan.tokensOrNone declared (String.ofList (s.take p)) = .ok ts
  not_blank : ∃ c, s[p]? = some c ∧ Text.isBlank c = false
  describes : e.Describes declared s p

namespace Scan

variable {declared : List String} {position p q : Nat} {c : Char} {a b rest s : List Char}
  {ts us : List Token} {e : Error}

/-! ## What is refused -/

theorem nameKind?_eq_none_iff {text : String} : nameKind? declared text = none ↔
    constant? text = none ∧ Builtin.ofName? text = none ∧ text ∉ declared := by
  rw [nameKind?]
  cases constant? text <;> cases Builtin.ofName? text <;> simp

/-- What is refused is described by its error. -/
theorem Refused.describes (h : Refused declared a.length c b e) :
    e.Describes declared (a ++ c :: b) a.length := by
  have hc : (a ++ c :: b)[a.length]? = some c := by simp
  have hrest : (a ++ c :: b).drop a.length = c :: b := List.drop_left
  cases h with
  | points hmantissa _ =>
    rw [List.takeWhile_cons_of_pos hmantissa]
    refine .number ?_ hmantissa
    rw [hrest, ← List.takeWhile_cons_of_pos hmantissa]
    exact List.takeWhile_prefix _
  | literal hmantissa _ _ =>
    have hstarts := literal_starts (c :: b)
    obtain ⟨d, l, hl⟩ := List.exists_cons_of_ne_nil (literal_ne_nil hmantissa)
    rw [hl] at hstarts ⊢
    obtain ⟨rfl, -⟩ := List.cons_prefix_cons.mp hstarts
    exact .number (by rwa [hrest]) hmantissa
  | name hstart hnone =>
    obtain ⟨hconstant, hfunction, hdeclared⟩ := nameKind?_eq_none_iff.mp hnone
    exact .name hc hstart (by rw [hrest]) hconstant hfunction hdeclared
  | character hmantissa hstar hkind hstart =>
    refine .character hc fun declared' rest word more h => ?_
    cases h with
    | number h => simp [hmantissa] at h
    | stars h | star h => exact hstar h
    | punctuation h => simp [hkind] at h
    | name h => simp [hstart] at h

/-- **Where a scan comes to a refused token,** its error points. -/
theorem pointsAt_of_refused (hreads : Reads declared (c :: b) 0 a ts)
    (hblank : Text.isBlank c = false) (hrefused : Refused declared a.length c b e) :
    e.PointsAt declared (a ++ c :: b) a.length where
  before := by
    have htokens := hreads.alone.tokens_eq
    rw [List.append_nil] at htokens
    rw [List.take_left, tokensOrNone_eq, String.toList_ofList, htokens]
    exact ⟨_, rfl⟩
  not_blank := ⟨c, by simp, hblank⟩
  describes := hrefused.describes

/-! ## No other place -/

/-- What a class takes of a text without its beginning. -/
theorem takeWhile_drop {p : Char → Bool} {k : Nat} (h : k ≤ (b.takeWhile p).length) :
    (b.drop k).takeWhile p = (b.takeWhile p).drop k := by
  induction b generalizing k with
  | nil => simp
  | cons d b ih =>
    cases k with
    | zero => rfl
    | succ k =>
      cases hd : p d with
      | false =>
        rw [List.takeWhile_cons_of_neg (by simp [hd])] at h
        cases h
      | true =>
        rw [List.takeWhile_cons_of_pos hd] at h ⊢
        exact ih (Nat.le_of_succ_le_succ h)

/-- Less than a name is left of it after its first character. -/
theorem takeWhile_drop_ne {p : Char → Bool} {k : Nat} (hc : p c = true)
    (h : k ≤ (b.takeWhile p).length) : (b.drop k).takeWhile p ≠ (c :: b).takeWhile p := by
  intro hsame
  have hlength := congrArg List.length hsame
  rw [takeWhile_drop h, List.takeWhile_cons_of_pos hc, List.length_cons, List.length_drop]
    at hlength
  omega

/-- What a class takes of a text is all there before a place that lies behind it. -/
theorem takeWhile_cons_take {p : Char → Bool} {k : Nat} (h : (b.takeWhile p).length ≤ k) :
    (c :: b.take k).takeWhile p = (c :: b).takeWhile p := by
  have hlength : ((c :: b.take k ++ b.drop k).takeWhile p).length ≤ (c :: b.take k).length := by
    have hle := (List.takeWhile_sublist (l := b) p).length_le
    rw [List.cons_append, List.take_append_drop, List.takeWhile_cons, List.length_cons,
      List.length_take]
    split <;> simp only [List.length_cons, List.length_nil] <;> omega
  have htaken := takeWhile_cut hlength
  rw [List.cons_append, List.take_append_drop] at htaken
  exact htaken.symm

/-- **The text before a later place has a token** at the character that the scan has
come to, where an error points at that place. -/
theorem exists_lexeme_of_pointsAt {k : Nat} (hreads : Reads declared (c :: b) 0 a ts)
    (hblank : Text.isBlank c = false)
    (h : e.PointsAt declared (a ++ c :: b) (a.length + (k + 1))) :
    ∃ found, lexeme declared (0 + a.length) c (b.take k) = .ok found := by
  obtain ⟨us, hus⟩ := h.before
  rw [List.take_length_add_append, List.take_succ_cons, tokensOrNone_eq,
    String.toList_ofList] at hus
  have hwhole : Reads declared (c :: b.take k ++ b.drop k) 0 a ts := by
    rwa [List.cons_append, List.take_append_drop]
  rw [hwhole.cut.tokens_eq] at hus
  obtain ⟨vs, hvs, -⟩ := Except.bind_eq_ok_iff.mp hus
  rcases tokens_cons_eq_ok hvs with ⟨hb, -⟩ | ⟨-, word, more, -, -, hword, -⟩
  · rw [hblank] at hb
    cases hb
  · exact ⟨_, hword⟩

/-- **The error of a name points at no later place** than the one where the scan has come
to that name: what stands before a later place has the whole name in it and fails for
it, or it has a part of it, and then less than the name is left. -/
theorem le_of_pointsAt_name (hreads : Reads declared (c :: b) 0 a ts)
    (hblank : Text.isBlank c = false) (hstart : isNameStart c = true) {text : String}
    (htext : text = String.ofList ((c :: b).takeWhile isNameChar))
    (hnone : nameKind? declared text = none)
    (h : (Error.unknownName text).PointsAt declared (a ++ c :: b) q) : q ≤ a.length := by
  refine Nat.le_of_not_lt fun hlt => ?_
  obtain ⟨k, rfl⟩ : ∃ k, q = a.length + (k + 1) := ⟨q - a.length - 1, by omega⟩
  rcases Nat.lt_or_ge k (b.takeWhile isNameChar).length with hk | hk
  -- less than the name is left
  · cases h.describes with
    | name _ _ hname _ _ _ =>
      have hchar : isNameChar c = true := by rw [isNameChar, hstart, Bool.true_or]
      rw [htext, List.drop_length_add_append, List.drop_succ_cons] at hname
      exact takeWhile_drop_ne hchar (Nat.le_of_lt hk) (String.ofList_injective hname).symm
  -- the whole name stands before the place
  · obtain ⟨found, hfound⟩ := exists_lexeme_of_pointsAt hreads hblank h
    rw [lexeme_of_isNameStart hstart, Scan.name, takeWhile_cons_take hk, ← htext, hnone] at hfound
    cases hfound

/-- The error of a character or of a literal says where it points. -/
theorem eq_of_describes (h : e.Describes declared s p) (h' : e.Describes declared s q) :
    q = p ∨ ∃ name, e = .unknownName name := by
  cases h with
  | character =>
    cases h'
    exact .inl rfl
  | number =>
    generalize String.ofList _ = literal at h'
    cases h'
    exact .inl rfl
  | name => exact .inr ⟨_, rfl⟩

/-- **The error of a text points at no later place** than the one where the scan has come
to a refused token. -/
theorem le_of_pointsAt (hreads : Reads declared (c :: b) 0 a ts) (hblank : Text.isBlank c = false)
    (hrefused : Refused declared a.length c b e) (h : e.PointsAt declared (a ++ c :: b) q) :
    q ≤ a.length := by
  rcases eq_of_describes hrefused.describes h.describes with rfl | ⟨name, rfl⟩
  · exact Nat.le_refl _
  · cases hrefused with
    | name hstart hnone => exact le_of_pointsAt_name hreads hblank hstart rfl hnone h

/-- A name that is described is refused where it stands. -/
theorem refused_of_describes {text : String}
    (h : (Error.unknownName text).Describes declared s q) (position : Nat) :
    ∃ d r, s.drop q = d :: r ∧ Refused declared position d r (.unknownName text) := by
  cases h with
  | @name d _ hd hstart htext hconstant hfunction hdeclared =>
    have hrest : s.drop q = d :: s.drop (q + 1) := by
      obtain ⟨hq, rfl⟩ := List.getElem?_eq_some_iff.mp hd
      exact List.drop_eq_getElem_cons hq
    refine ⟨d, _, hrest, ?_⟩
    rw [htext, hrest] at hconstant hfunction hdeclared ⊢
    exact .name hstart (nameKind?_eq_none_iff.mpr ⟨hconstant, hfunction, hdeclared⟩)

/-- **The scan comes to no other place** where the error points. -/
theorem eq_of_comesTo (hreads : Reads declared (c :: b) 0 a ts) (hblank : Text.isBlank c = false)
    (hrefused : Refused declared a.length c b e) (h : e.PointsAt declared (a ++ c :: b) q)
    (hus : ComesTo declared (a ++ c :: b) q us) : q = a.length := by
  rcases eq_of_describes hrefused.describes h.describes with rfl | ⟨name, rfl⟩
  · rfl
  refine Nat.le_antisymm (le_of_pointsAt hreads hblank hrefused h) ?_
  -- the name is refused at the other place as well, so this one is not behind it
  have hpoints := pointsAt_of_refused hreads hblank hrefused
  obtain ⟨d, hd, hdblank⟩ := h.not_blank
  have hqlength : ((a ++ c :: b).take q).length = q :=
    List.length_take_of_le (Nat.le_of_lt (List.getElem?_eq_some_iff.mp hd).1)
  obtain ⟨d', r, hrest, hname⟩ := refused_of_describes h.describes q
  rw [← List.head?_drop, hrest] at hd
  obtain rfl := Option.some.inj hd
  have hsplit : a ++ c :: b = (a ++ c :: b).take q ++ d' :: r := by
    rw [← hrest, List.take_append_drop]
  rw [ComesTo, hrest] at hus
  rw [hsplit] at hpoints
  rw [← hqlength] at hname
  rw [← hqlength]
  exact le_of_pointsAt hus hdblank hname hpoints

/-! ## Other texts -/

/-- A character that starts no token goes on with none either. -/
theorem isSeparator_of_refused (h : Refused declared position c b (.invalidCharacter c position)) :
    isSeparator c = true := by
  cases h with
  | character hmantissa hstar hkind hstart =>
    have hdigit : Decimal.isDigit c = false := (Bool.or_eq_false_iff.mp hmantissa).1
    have hnone : ∀ d ∈ ['e', 'E', '+', '-'], c ≠ d := by
      rintro d hd rfl
      simp only [List.mem_cons, List.not_mem_nil, or_false] at hd
      rcases hd with rfl | rfl | rfl | rfl
      · cases hstart
      · cases hstart
      · cases hkind
      · cases hkind
    simp only [List.mem_cons, List.not_mem_nil, or_false, forall_eq_or_imp, forall_eq] at hnone
    simp [isSeparator, endsNumber, isNameChar, hmantissa, hdigit, hstart, hstar, hnone]

/-- **A text fails for a character** that starts no token whatever follows the character. -/
theorem tokens_of_invalidCharacter (hreads : Reads declared (c :: b) 0 a ts)
    (hblank : Text.isBlank c = false)
    (h : Refused declared a.length c b (.invalidCharacter c a.length)) (b' : List Char) :
    tokens declared 0 0 (a ++ c :: b') = .error (.invalidCharacter c a.length) := by
  have htokens := hreads.alone.tokens_eq
  have hrefused : lexeme declared (0 + a.length) c b' = .error (.invalidCharacter c a.length) := by
    rw [Nat.zero_add]
    cases h with
    | character hmantissa hstar hkind hstart =>
      exact lexeme_of_refused (.character hmantissa hstar hkind hstart)
  rw [List.append_nil] at htokens
  rw [tokens_append (isSeparator_of_refused h) a 0 0 (Nat.zero_le _), htokens]
  simp only [tokens, hblank, hrefused]
  rfl

end Scan

/-- **The error of a text points at the first bad token.** There is just one place among
those that the scan comes to where it points. A character or a literal that is refused
points at no other place; and where a name does, the scan does not come to that place,
which lies before. A text that is the same up to a character that starts no token fails
for that character too. -/
theorem tokenize_error_pointsAt {declared : List String} {expression : String} {e : Error}
    (h : tokenize declared expression = .error e) (he : e ≠ .emptyExpression) :
    ∃ p, (e.PointsAt declared expression.toList p ∧
        ∃ ts, Scan.ComesTo declared expression.toList p ts) ∧
      (∀ q, e.PointsAt declared expression.toList q → q = p ∨
        q < p ∧ (∀ ts, ¬ Scan.ComesTo declared expression.toList q ts) ∧
          ∃ name, e = .unknownName name) ∧
      ∀ c i, e = .invalidCharacter c i → ∀ other : String,
        expression.toList.take (p + 1) <+: other.toList → tokenize declared other = .error e := by
  rw [Scan.tokenize_eq_error_iff he] at h
  obtain ⟨a, ts, c, b, hs, hreads, hblank, hrefused⟩ :=
    Scan.exists_refused _ 0 0 (Nat.zero_le _) h
  rw [List.drop_zero] at hs
  rw [Nat.zero_add] at hreads hrefused
  rw [hs]
  refine ⟨a.length, ⟨Scan.pointsAt_of_refused hreads hblank hrefused, ts, ?_⟩, fun q hq => ?_, ?_⟩
  · rwa [Scan.ComesTo, List.take_left, List.drop_left]
  · rcases Scan.eq_of_describes hrefused.describes hq.describes with hq' | hname
    · exact .inl hq'
    rcases Nat.eq_or_lt_of_le (Scan.le_of_pointsAt hreads hblank hrefused hq) with hq' | hlt
    · exact .inl hq'
    · refine .inr ⟨hlt, fun us hcomes => ?_, hname⟩
      exact absurd (Scan.eq_of_comesTo hreads hblank hrefused hq hcomes) (Nat.ne_of_lt hlt)
  · rintro d i rfl other ⟨b', hother⟩
    obtain ⟨rfl, rfl⟩ : d = c ∧ i = a.length := by
      cases hrefused
      exact ⟨rfl, rfl⟩
    rw [List.take_length_add_append, List.append_assoc] at hother
    rw [Scan.tokenize_eq_error_iff he, ← hother]
    exact Scan.tokens_of_invalidCharacter hreads hblank hrefused b'

/-- The name at the end of `2e5 e5` is refused at its place, and at no other that the scan
comes to. -/
theorem tokenize_error_pointsAt_name :
    tokenize [] "2e5 e5" = .error (.unknownName "e5") ∧
      ∃ p, (Error.unknownName "e5").PointsAt [] "2e5 e5".toList p ∧
        (∃ ts, Scan.ComesTo [] "2e5 e5".toList p ts) ∧
        ∀ q, (Error.unknownName "e5").PointsAt [] "2e5 e5".toList q →
          q = p ∨ q < p ∧ ∀ ts, ¬ Scan.ComesTo [] "2e5 e5".toList q ts := by
  have h : tokenize [] "2e5 e5" = .error (.unknownName "e5") := rfl
  obtain ⟨p, ⟨hp, hcomes⟩, hall, -⟩ := tokenize_error_pointsAt h nofun
  exact ⟨h, p, hp, hcomes, fun q hq => (hall q hq).imp id fun hq => ⟨hq.1, hq.2.1⟩⟩

/-- **The error of a name may point at two places.** The letters that are refused in
`2e5 e5` also end the number in front, and what stands before them there is a number by
itself. -/
theorem unknownName_points_twice :
    tokenize [] "2e5 e5" = .error (.unknownName "e5") ∧
      ¬ ∃ p, (Error.unknownName "e5").PointsAt [] "2e5 e5".toList p ∧
        ∀ q, (Error.unknownName "e5").PointsAt [] "2e5 e5".toList q → q = p := by
  refine ⟨rfl, ?_⟩
  rintro ⟨p, -, hall⟩
  have hinside : (Error.unknownName "e5").PointsAt [] "2e5 e5".toList 1 :=
    ⟨⟨_, rfl⟩, ⟨'e', rfl, rfl⟩, .name rfl rfl rfl rfl rfl List.not_mem_nil⟩
  have hname : (Error.unknownName "e5").PointsAt [] "2e5 e5".toList 4 :=
    ⟨⟨_, rfl⟩, ⟨'e', rfl, rfl⟩, .name rfl rfl rfl rfl rfl List.not_mem_nil⟩
  have htwo : 1 = 4 := (hall 1 hinside).trans (hall 4 hname).symm
  cases htwo

end Reckon
