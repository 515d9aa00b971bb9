import Reckon.Proofs.Token.Text
/-!
# Token — how far a scan has come

The scan of a text stands at one place after another: past a blank, or past a token
that it has read (`Reads`). What it has read is read alike where the text is cut
behind it (`Reads.cut`), and from there on it comes to what the rest of the text comes
to (`Reads.tokens_eq`). A scan that fails has come to the place where a token is
refused (`exists_refused`).
-/

namespace Reckon

namespace Scan

variable {declared : List String} {position skip : Nat} {c : Char} {a b r rest : List Char}
  {word : Lexeme} {more : Nat} {ts us : List Token} {e : Error}

/-- **A scan reads a text,** from a place on, as tokens, where so much of the text is
left behind it. -/
inductive Reads (declared : List String) (rest : List Char) :
    Nat → List Char → List Token → Prop where
  /-- It stands where it starts. -/
  | start {position : Nat} : Reads declared rest position [] []
  /-- It passes a blank. -/
  | blank {position : Nat} {c : Char} {a : List Char} {ts : List Token} :
      Text.isBlank c = true → Reads declared rest (position + 1) a ts →
      Reads declared rest position (c :: a) ts
  /-- It passes the characters of a token. -/
  | token {position : Nat} {c : Char} {passed a : List Char} {word : Lexeme} {ts : List Token} :
      Text.isBlank c = false → TokenAt declared c (passed ++ (a ++ rest)) word passed.length →
      Reads declared rest (position + 1 + passed.length) a ts →
      Reads declared rest position (c :: (passed ++ a)) (⟨word, position⟩ :: ts)

namespace Reads

/-- **What has been read** comes before what the rest of the text comes to. -/
theorem tokens_eq (h : Reads declared rest position a ts) :
    tokens declared 0 position (a ++ rest) = (do
      let us ← tokens declared 0 (position + a.length) rest
      return ts ++ us) := by
  induction h with
  | start => exact (bind_pure _).symm
  | blank hb _ ih =>
    rw [List.cons_append, tokens, if_pos hb, ih, List.length_cons, Nat.add_right_comm,
      Nat.add_assoc]
  | @token position c passed a word ts hb hword _ ih =>
    have hlength : position + (c :: (passed ++ a)).length =
        position + 1 + passed.length + a.length := by
      simp only [List.length_cons, List.length_append]
      omega
    rw [List.cons_append, List.append_assoc, tokens_cons hb (lexeme_of_tokenAt hword), tokens_pass,
      ih, hlength]
    cases tokens declared 0 (position + 1 + passed.length + a.length) rest <;> rfl

/-- **What has been read is read alike** where the text is cut behind it. -/
theorem cut (h : Reads declared (b ++ rest) position a ts) : Reads declared b position a ts := by
  induction h with
  | start => exact .start
  | blank hb _ ih => exact .blank hb ih
  | token hb hword _ ih =>
    refine .token hb ?_ ih
    simp only [← List.append_assoc] at hword ⊢
    exact hword.cut (by simp only [List.length_append]; omega)

/-- So it is where the text ends there. -/
theorem alone (h : Reads declared rest position a ts) : Reads declared [] position a ts :=
  cut (b := []) h

/-- **A scan that goes on** has read both texts. -/
theorem append (h : Reads declared (b ++ rest) position a ts)
    (h' : Reads declared rest (position + a.length) b us) :
    Reads declared rest position (a ++ b) (ts ++ us) := by
  induction h with
  | start => exact h'
  | @blank position c a ts hb _ ih =>
    rw [List.length_cons, Nat.add_comm a.length, ← Nat.add_assoc] at h'
    exact .blank hb (ih h')
  | @token position c passed a word ts hb hword _ ih =>
    have hlength : position + (c :: (passed ++ a)).length =
        position + 1 + passed.length + a.length := by
      simp only [List.length_cons, List.length_append]
      omega
    rw [hlength] at h'
    rw [List.cons_append, List.append_assoc, List.cons_append]
    exact .token hb (by rwa [List.append_assoc]) (ih h')

/-- What comes first in what has been read: a blank, or a token. -/
theorem cons_cases (h : Reads declared rest position (c :: a) ts) :
    (Text.isBlank c = true ∧ Reads declared rest (position + 1) a ts) ∨
      (Text.isBlank c = false ∧ ∃ passed a' word ts', a = passed ++ a' ∧
        ts = ⟨word, position⟩ :: ts' ∧
        TokenAt declared c (passed ++ (a' ++ rest)) word passed.length ∧
        Reads declared rest (position + 1 + passed.length) a' ts') := by
  generalize hs : c :: a = s at h
  cases h with
  | start => cases hs
  | blank hb h =>
    cases hs
    exact .inl ⟨hb, h⟩
  | token hb hword h =>
    cases hs
    exact .inr ⟨hb, _, _, _, _, rfl, rfl, hword, h⟩

/-- A text that is read as no token is blank. -/
theorem isBlank_of_nil (h : Reads declared rest position a []) :
    ∀ d ∈ a, Text.isBlank d = true := by
  generalize hts : ([] : List Token) = ts at h
  induction h with
  | start => exact List.forall_mem_nil _
  | blank hb _ ih => exact List.forall_mem_cons.mpr ⟨hb, ih hts⟩
  | token => cases hts

/-- **A scan that has read a text and reads more of it** goes on from there. -/
theorem further (h : Reads declared (b ++ rest) position a ts)
    (h' : Reads declared rest position (a ++ b) (ts ++ us)) :
    Reads declared rest (position + a.length) b us := by
  induction h with
  | start => exact h'
  | @blank position c a ts hb _ ih =>
    rw [List.length_cons, Nat.add_comm a.length, ← Nat.add_assoc]
    rcases h'.cons_cases with ⟨-, h'⟩ | ⟨hb', -⟩
    · exact ih h'
    · rw [hb] at hb'
      cases hb'
  | @token position c passed a word ts hb hword _ ih =>
    rcases h'.cons_cases with ⟨hb', -⟩ | ⟨-, passed', a', word', ts', ha, hts, hword', h'⟩
    · rw [hb] at hb'
      cases hb'
    -- one token starts at the character, so both scans pass the same
    · have ha : passed ++ (a ++ b) = passed' ++ a' := by rw [← List.append_assoc]; exact ha
      have htext : passed' ++ (a' ++ rest) = passed ++ (a ++ (b ++ rest)) := by
        rw [← List.append_assoc, ← ha, List.append_assoc, List.append_assoc]
      rw [htext] at hword'
      have hfirst : lexeme declared 0 c (passed ++ (a ++ (b ++ rest))) =
          .ok (word, passed.length) := lexeme_of_tokenAt hword
      obtain ⟨rfl, hpassed⟩ :=
        Prod.mk.inj (Except.ok.inj (hfirst.symm.trans (lexeme_of_tokenAt hword')))
      obtain ⟨rfl, rfl⟩ := List.append_inj ha hpassed
      obtain ⟨-, rfl⟩ := List.cons.inj hts
      have hlength : position + (c :: (passed ++ a)).length =
          position + 1 + passed.length + a.length := by
        simp only [List.length_cons, List.length_append]
        omega
      rw [hlength]
      exact ih h'

end Reads

/-- **The scan of a text comes to a place** with the tokens that stand before it. -/
def ComesTo (declared : List String) (s : List Char) (place : Nat) (ts : List Token) : Prop :=
  Reads declared (s.drop place) 0 (s.take place) ts

namespace ComesTo

variable {s passed : List Char} {place : Nat}

/-- What stands before the place comes before what the rest of the text comes to. -/
theorem tokens_eq (h : ComesTo declared s place ts) :
    tokens declared 0 0 s = (do
      let us ← tokens declared 0 place (s.drop place)
      return ts ++ us) := by
  have htokens := Reads.tokens_eq h
  rw [List.take_append_drop] at htokens
  rcases Nat.le_total place s.length with hplace | hplace
  · rwa [List.length_take_of_le hplace, Nat.zero_add] at htokens
  · rwa [List.drop_eq_nil_of_le hplace] at htokens ⊢

theorem tokenize_eq {expression : String} (h : ComesTo declared expression.toList place ts)
    (hne : ts ≠ []) : tokenize declared expression = (do
      let us ← tokens declared 0 place (expression.toList.drop place)
      return ts ++ us) := by
  rw [Scan.tokenize_eq, h.tokens_eq]
  cases tokens declared 0 place (expression.toList.drop place) with
  | error e => rfl
  | ok us => exact if_neg fun hnil => hne (List.append_eq_nil_iff.mp hnil).1

/-- **A text fails where the scan comes to a refused token.** -/
theorem tokenize_of_refused {expression : String} (h : ComesTo declared expression.toList place ts)
    (hs : expression.toList.drop place = c :: r) (hb : Text.isBlank c = false)
    (hrefused : Refused declared place c r e) : tokenize declared expression = .error e := by
  rw [Scan.tokenize_eq, h.tokens_eq, hs, tokens, hb, lexeme_of_refused hrefused]
  rfl

/-- **The scan passes a token** at the place exactly if one starts there. -/
theorem token_iff (h : ComesTo declared s place ts) (hs : s.drop place = c :: (passed ++ rest))
    (hb : Text.isBlank c = false) (hpassed : ∀ d ∈ passed, Text.isBlank d = false) :
    ComesTo declared s (place + (c :: passed).length) (ts ++ [⟨word, place⟩]) ↔
      TokenAt declared c (passed ++ rest) word passed.length := by
  have hplace : place ≤ s.length := by
    refine Nat.le_of_not_lt fun hlt => ?_
    rw [List.drop_eq_nil_of_le (Nat.le_of_lt hlt)] at hs
    cases hs
  have hlength : (s.take place).length = place := List.length_take_of_le hplace
  have htake : s.take (place + (c :: passed).length) = s.take place ++ c :: passed := by
    rw [List.take_add, hs, ← List.cons_append, List.take_left]
  have hdrop : s.drop (place + (c :: passed).length) = rest := by
    rw [← List.drop_drop, hs, ← List.cons_append, List.drop_left]
  rw [ComesTo, hs, ← List.cons_append] at h
  rw [ComesTo, htake, hdrop]
  constructor
  · intro h'
    have hnext := h.further h'
    rw [hlength, Nat.zero_add] at hnext
    rcases hnext.cons_cases with ⟨hb', -⟩ | ⟨-, passed', a, word', ts', rfl, hts, htoken, hnext⟩
    · rw [hb] at hb'
      cases hb'
    · obtain ⟨hword, rfl⟩ := List.cons.inj hts
      obtain ⟨rfl, -⟩ := Token.mk.inj hword
      -- what it passes without a token is blank, and there is no blank left to pass
      cases a with
      | nil => simpa using htoken
      | cons d a =>
        have hd := hnext.isBlank_of_nil d List.mem_cons_self
        rw [hpassed d (List.mem_append_right passed' List.mem_cons_self)] at hd
        cases hd
  · intro htoken
    refine h.append ?_
    rw [hlength, Nat.zero_add]
    have hread : Reads declared rest (place + 1 + passed.length) [] [] := .start
    have hnext := Reads.token hb htoken hread
    rwa [List.append_nil] at hnext

end ComesTo

/-- It passes a token and goes on from what that leaves of the text. -/
theorem Reads.token_drop {a d r : List Char} {c : Char} {word : Lexeme} {more : Nat}
    (hb : Text.isBlank c = false) (htoken : TokenAt declared c r word more)
    (hr : r.drop more = a ++ d) (h : Reads declared d (position + 1 + more) a ts) :
    Reads declared d position (c :: (r.take more ++ a)) (⟨word, position⟩ :: ts) := by
  have hpassed : (r.take more).length = more := List.length_take_of_le htoken.more_le
  refine .token hb ?_ (hpassed.symm ▸ h)
  rw [hpassed, ← hr, List.take_append_drop]
  exact htoken

/-- **A scan that fails** has come to a place where a token is refused. -/
theorem exists_refused (r : List Char) : ∀ skip position, skip ≤ r.length →
    tokens declared skip position r = .error e →
    ∃ a ts c b, r.drop skip = a ++ c :: b ∧ Reads declared (c :: b) (position + skip) a ts ∧
      Text.isBlank c = false ∧ Refused declared (position + skip + a.length) c b e := by
  induction r with
  | nil =>
    intro skip position _ h
    cases h
  | cons c r ih =>
    intro skip position hskip h
    cases skip with
    | succ skip =>
      rw [← Nat.add_assoc, Nat.add_right_comm]
      exact ih skip (position + 1) (Nat.le_of_succ_le_succ hskip) h
    | zero =>
      rcases tokens_cons_eq_error h with ⟨hb, h⟩ | ⟨hb, h | ⟨word, more, hword, h⟩⟩
      · obtain ⟨a, ts, d, b, hr, hreads, hd, hrefused⟩ := ih 0 (position + 1) (Nat.zero_le _) h
        refine ⟨c :: a, ts, d, b, congrArg (c :: ·) hr, .blank hb hreads, hd, ?_⟩
        rw [List.length_cons, Nat.add_comm a.length, ← Nat.add_assoc]
        exact hrefused
      · exact ⟨[], [], c, r, rfl, .start, hb, refused_of_lexeme h⟩
      · have htoken := tokenAt_of_lexeme hword
        obtain ⟨a, ts, d, b, hr, hreads, hd, hrefused⟩ := ih more (position + 1) htoken.more_le h
        refine ⟨c :: (r.take more ++ a), _, d, b, ?_, .token_drop hb htoken hr hreads, hd, ?_⟩
        · rw [List.drop_zero, List.cons_append, List.append_assoc, ← hr, List.take_append_drop]
        · have hlength : position + 0 + (c :: (r.take more ++ a)).length =
              position + 1 + more + a.length := by
            simp only [List.length_cons, List.length_append,
              List.length_take_of_le htoken.more_le]
            omega
          rwa [hlength]

end Scan

end Reckon
