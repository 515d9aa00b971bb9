import Reckon.Proofs.Calculus.Extremum
/-!
# Calculus — the samples that a golden-section search takes

A search keeps two samples from one bracket to the next. They are never stale: after any number of
steps each is the sample at the inner point that it is kept for (`Fresh.narrowTimes`), whatever the
points are. And nothing is sampled twice: where the function records the points at which it is
asked, a step asks at one point, its new inner one (`narrow_recorded`), and a search that is not
broken off asks three times more often than it takes steps (`records_goldenSection`).
-/

namespace Reckon

namespace Calculus

variable {α β γ ε : Type}

/-! ## Recording -/

/-- **A computation that records points,** the last one at the end, also where it stops with an
error. -/
abbrev Recording (α ε : Type) := ExceptT ε (StateM (List α))

/-- A function that records the points at which it is asked for a value. -/
def recorded (f : α → Except ε α) (x : α) : Recording α ε α :=
  fun points => (f x, points ++ [x])

/-- A computation that asks nowhere. -/
def unrecorded (a : Except ε β) : Recording α ε β :=
  fun points => (a, points)

theorem recording_bind_apply (A : Recording α ε β) (F : β → Recording α ε γ) (points : List α) :
    (A >>= F) points = match A points with
      | (.ok v, later) => F v later
      | (.error e, later) => (.error e, later) := by
  change StateT.bind A (ExceptT.bindCont F) points = _
  rw [StateT.bind]
  rcases A points with ⟨v | e, later⟩ <;> rfl

/-- **A computation comes to what another does** and, unless it stops, records so many points. -/
def Records (A : Recording α ε β) (a : Except ε β) (count : Nat) : Prop :=
  ∀ points, ∃ new, A points = (a, points ++ new) ∧ ∀ v, a = .ok v → new.length = count

namespace Records

variable {A : Recording α ε β} {a : Except ε β} {count more : Nat}

theorem pure (v : β) : Records (pure v : Recording α ε β) (.ok v) 0 :=
  fun points => ⟨[], by rw [List.append_nil]; rfl, fun _ _ => rfl⟩

theorem sample (f : α → Except ε α) (x : α) : Records (recorded f x) (f x) 1 :=
  fun _ => ⟨[x], rfl, fun _ _ => rfl⟩

theorem silent (a : Except ε β) : Records (unrecorded a : Recording α ε β) a 0 :=
  fun points => ⟨[], by rw [List.append_nil]; rfl, fun _ _ => rfl⟩

/-- One computation after another records the points of both. -/
theorem bind {F : β → Recording α ε γ} {f : β → Except ε γ} (hA : Records A a count)
    (hF : ∀ v, a = .ok v → Records (F v) (f v) more) :
    Records (A >>= F) (a >>= f) (count + more) := by
  intro points
  obtain ⟨new, hnew, hcount⟩ := hA points
  rw [recording_bind_apply, hnew]
  cases a with
  | error e => exact ⟨new, rfl, by rintro v ⟨⟩⟩
  | ok v =>
    obtain ⟨new', hnew', hcount'⟩ := hF v rfl (points ++ new)
    refine ⟨new ++ new', by rw [← List.append_assoc]; exact hnew', fun w hw => ?_⟩
    rw [List.length_append, hcount v rfl, hcount' w hw]

end Records

/-! ## Samples of a bracket -/

section Rank

variable [Mul α] [Neg α] [OfNat α 1] {kind : Extremum} {f : α → Except ε α} {x w : α}

theorem rank_eq_ok_iff : kind.rank f x = .ok w ↔ ∃ v, f x = .ok v ∧ w = kind.sign * v := by
  rw [Extremum.rank, Except.bind_eq_ok_iff]
  constructor
  · rintro ⟨v, hv, ⟨⟩⟩
    exact ⟨v, hv, rfl⟩
  · rintro ⟨v, hv, rfl⟩
    exact ⟨v, hv, rfl⟩

/-- What a search makes small is sampled where the function is. -/
theorem rank_recorded (kind : Extremum) (f : α → Except ε α) (x : α) (points : List α) :
    kind.rank (recorded f) x points = (kind.rank f x, points ++ [x]) := by
  change (recorded f x >>= fun v => pure (kind.sign * v)) points = _
  rw [recording_bind_apply, recorded, Extremum.rank]
  cases f x <;> rfl

theorem Records.rank (kind : Extremum) (f : α → Except ε α) (x : α) :
    Records (kind.rank (recorded f) x) (kind.rank f x) 1 :=
  fun points => ⟨[x], rank_recorded kind f x points, fun _ _ => rfl⟩

/-- **The samples of a bracket are those at its inner points,** with the sign of the search. -/
structure Fresh (kind : Extremum) (f : α → Except ε α) (s : Bracket α) : Prop where
  left : ∃ v, f s.c = .ok v ∧ s.fc = kind.sign * v
  right : ∃ v, f s.d = .ok v ∧ s.fd = kind.sign * v

end Rank

variable [Add α] [Sub α] [Mul α] [Neg α] [OfNat α 1] {kind : Extremum} {f : α → Except ε α}
variable {ratio a b : α} {s s' : Bracket α}

theorem fresh_start (h : Bracket.start ratio (kind.rank f) a b = .ok s) : Fresh kind f s := by
  obtain ⟨fc, hfc, h⟩ := Except.bind_eq_ok_iff.mp h
  obtain ⟨fd, hfd, h⟩ := Except.bind_eq_ok_iff.mp h
  cases h
  exact ⟨rank_eq_ok_iff.mp hfc, rank_eq_ok_iff.mp hfd⟩

theorem records_start (kind : Extremum) (f : α → Except ε α) (ratio a b : α) :
    Records (Bracket.start ratio (kind.rank (recorded f)) a b)
      (Bracket.start ratio (kind.rank f) a b) 2 :=
  (Records.rank kind f _).bind fun _ _ => (Records.rank kind f _).bind fun _ _ => .pure _

variable [LT α] [DecidableLT α]

/-- **A step keeps them fresh:** the inner point that is kept takes its sample along. -/
theorem Fresh.narrow (hs : Fresh kind f s) (h : s.narrow ratio (kind.rank f) = .ok s') :
    Fresh kind f s' := by
  rw [Bracket.narrow] at h
  split at h
  · obtain ⟨fc, hfc, h⟩ := Except.bind_eq_ok_iff.mp h
    cases h
    exact ⟨rank_eq_ok_iff.mp hfc, hs.left⟩
  · obtain ⟨fd, hfd, h⟩ := Except.bind_eq_ok_iff.mp h
    cases h
    exact ⟨hs.right, rank_eq_ok_iff.mp hfd⟩

/-- **And so do steps in turn.** -/
theorem Fresh.narrowTimes {n : Nat} (hs : Fresh kind f s)
    (h : s.narrowTimes ratio (kind.rank f) n = .ok s') : Fresh kind f s' := by
  induction n generalizing s with
  | zero =>
    cases h
    exact hs
  | succ n ih =>
    obtain ⟨next, hnext, hrest⟩ := Except.bind_eq_ok_iff.mp h
    exact ih (hs.narrow hnext) hrest

/-- **A step samples at one point,** which becomes an inner one; the other inner point is one of
the bracket before. -/
theorem narrow_recorded (ratio : α) (kind : Extremum) (f : α → Except ε α) (s : Bracket α)
    (points : List α) :
    ∃ x, s.narrow ratio (kind.rank (recorded f)) points =
        (s.narrow ratio (kind.rank f), points ++ [x]) ∧
      ∀ s', s.narrow ratio (kind.rank f) = .ok s' →
        s'.c = x ∧ s'.d = s.c ∨ s'.c = s.d ∧ s'.d = x := by
  rw [Bracket.narrow, Bracket.narrow]
  split
  · refine ⟨Bracket.innerLeft ratio s.a s.d, ?_, fun s' h => ?_⟩
    · simp only [recording_bind_apply, rank_recorded]
      cases kind.rank f (Bracket.innerLeft ratio s.a s.d) <;> rfl
    · obtain ⟨fc, -, h⟩ := Except.bind_eq_ok_iff.mp h
      cases h
      exact .inl ⟨rfl, rfl⟩
  · refine ⟨Bracket.innerRight ratio s.c s.b, ?_, fun s' h => ?_⟩
    · simp only [recording_bind_apply, rank_recorded]
      cases kind.rank f (Bracket.innerRight ratio s.c s.b) <;> rfl
    · obtain ⟨fd, -, h⟩ := Except.bind_eq_ok_iff.mp h
      cases h
      exact .inr ⟨rfl, rfl⟩

theorem records_narrowTimes (kind : Extremum) (f : α → Except ε α) (ratio : α) (n : Nat)
    (s : Bracket α) : Records (s.narrowTimes ratio (kind.rank (recorded f)) n)
      (s.narrowTimes ratio (kind.rank f) n) n := by
  induction n generalizing s with
  | zero => exact .pure s
  | succ n ih =>
    have hstep : Records (s.narrow ratio (kind.rank (recorded f))) (s.narrow ratio (kind.rank f)) 1 :=
      fun points =>
        have ⟨x, hx, _⟩ := narrow_recorded ratio kind f s points
        ⟨[x], hx, fun _ _ => rfl⟩
    have hcount : n + 1 = 1 + n := Nat.add_comm n 1
    rw [Bracket.narrowTimes, Bracket.narrowTimes, hcount]
    exact hstep.bind fun next _ => ih next

/-- **A search samples twice at its start, once a step, and once at its end.** -/
theorem records_goldenSection [Div α] [OfNat α 2] (kind : Extremum) (f : α → Except ε α) (n : Nat)
    (ratio a b : α) :
    Records (goldenSection ratio (kind.rank (recorded f)) (recorded f) (unrecorded (.ok n)) a b)
      (goldenSection ratio (kind.rank f) f (.ok n) a b) (n + 3) := by
  have hcount : n + 3 = 2 + (0 + (n + (1 + 0))) := by omega
  rw [hcount]
  refine (records_start kind f ratio a b).bind fun first _ => ?_
  refine (Records.silent (.ok n)).bind fun steps hsteps => ?_
  cases hsteps
  refine (records_narrowTimes kind f ratio n first).bind fun last _ => ?_
  exact (Records.sample f _).bind fun v _ => .pure _

/-! ## The search of a template -/

/-- **The samples of a search for an extremum are never stale, and each is taken once.** After any
number of steps the two samples that are kept are those at the inner points of the bracket. Every
step samples at exactly one point, a new inner one, also where it is broken off there. And a search
that finds an extremum in so many steps has sampled the template exactly three times more often. -/
theorem findExtremum_fresh (S : Settings.Standing) (template : String) (lower upper : Float)
    (kind : Extremum) (tolerance : Value) (tol : Quantity) (n : Nat)
    (htol : positive .toleranceNotPositive tolerance (S .extremumTolerance) = .ok tol)
    (hsteps : stepCount (greater lower upper - lesser lower upper) tol = .ok n) :
    let f := sampler S template
    let a := lesser lower upper
    let b := greater lower upper
    (∀ k s, (Bracket.start goldenRatio (kind.rank f) a b >>=
        Bracket.narrowTimes goldenRatio (kind.rank f) k) = .ok s → Fresh kind f s) ∧
      (∀ (s : Bracket Float) points, ∃ x, s.narrow goldenRatio (kind.rank (recorded f)) points =
          (s.narrow goldenRatio (kind.rank f), points ++ [x]) ∧
        ∀ s', s.narrow goldenRatio (kind.rank f) = .ok s' →
          s'.c = x ∧ s'.d = s.c ∨ s'.c = s.d ∧ s'.d = x) ∧
      ∃ points, goldenSection goldenRatio (kind.rank (recorded f)) (recorded f)
          (unrecorded (stepCount (b - a) tol)) a b [] =
          (findExtremum S template lower upper kind.word tolerance, points) ∧
        ∀ p, findExtremum S template lower upper kind.word tolerance = .ok p →
          points.length = n + 3 := by
  intro f a b
  have hkind : Extremum.ofWord kind.word = .ok kind := by cases kind <;> rfl
  have hsearch : findExtremum S template lower upper kind.word tolerance =
      goldenSection goldenRatio (kind.rank f) f (.ok n) a b := by
    simp only [findExtremum, hkind, htol, ← hsteps]
    rfl
  refine ⟨fun k s h => ?_, narrow_recorded goldenRatio kind f, ?_⟩
  · obtain ⟨first, hfirst, hrest⟩ := Except.bind_eq_ok_iff.mp h
    exact (fresh_start hfirst).narrowTimes hrest
  · rw [hsearch, hsteps]
    exact records_goldenSection kind f n goldenRatio a b []

/-- A template without a slope, searched for a maximum in however many steps narrow its bounds to
the tolerance. -/
theorem constant_extremum_fresh :
    ∃ n x points, stepCount (3 - -1) (.real 1e-8) = .ok n ∧
      goldenSection goldenRatio
          (Extremum.maximum.rank (recorded (sampler Settings.default.standing constant)))
          (recorded (sampler Settings.default.standing constant))
          (unrecorded (stepCount (3 - -1) (.real 1e-8))) (-1) 3 [] = (.ok (x, 1), points) ∧
        points.length = n + 3 := by
  have hbounds : lesser (-1 : Float) 3 = -1 ∧ greater (-1 : Float) 3 = 3 := by decide +kernel
  have hrank := exists_rank .maximum fun x => ⟨1, sampler_constant x⟩
  have hvanishes : ¬ Vanishes (.real 1e-8) (3 - -1) := by
    rintro ⟨-, t, ht, hratio⟩
    obtain rfl : 1e-8 = t := Except.ok.inj ht
    revert hratio
    decide +kernel
  obtain ⟨n, hn⟩ := exists_stepCount rfl hvanishes
  obtain ⟨last, v, -, -, hresult, hv⟩ := exists_goldenSection hrank rfl rfl isShare_goldenRatio
    (fun x => ⟨1, sampler_constant x⟩) (by decide +kernel : (-1 : Float) ≤ 3) rfl hn
  obtain rfl : v = 1 := Except.ok.inj (hv.symm.trans (sampler_constant _))
  obtain ⟨-, -, hsamples⟩ := findExtremum_fresh Settings.default.standing constant (-1) 3 .maximum
    .nothing (.real 1e-8) n rfl (by rwa [hbounds.1, hbounds.2])
  rw [hbounds.1, hbounds.2] at hsamples
  have hfound : findExtremum Settings.default.standing constant (-1) 3 Extremum.maximum.word =
      .ok (last.middle, 1) := by
    rw [← hresult, ← hbounds.1, ← hbounds.2]
    rfl
  obtain ⟨points, hpoints, hlength⟩ := hsamples
  rw [hfound] at hpoints hlength
  exact ⟨n, last.middle, points, hn, hpoints, hlength _ rfl⟩

end Calculus

end Reckon
