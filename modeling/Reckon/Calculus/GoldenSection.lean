/-!
# Calculus — golden-section search

A bracket around a minimum with two inner points that cut it in the golden
ratio. A step drops the part beyond the worse inner point, keeps the other
one with its sample, and takes a single new sample. The numbers and the
effects of a sample are any.
-/

namespace Reckon

namespace Calculus

/-- A bracket from `a` to `b` with inner points `c` and `d` and the samples
there. -/
structure Bracket (α : Type) where
  a : α
  b : α
  c : α
  d : α
  fc : α
  fd : α

variable {α : Type} [Add α] [Sub α] [Mul α] [LT α] [DecidableLT α]
variable {m : Type → Type} [Monad m]

namespace Bracket

/-- The inner point toward `a`. -/
def innerLeft (ratio a b : α) : α := b - ratio * (b - a)

/-- The inner point toward `b`. -/
def innerRight (ratio a b : α) : α := a + ratio * (b - a)

/-- The bracket of an interval, with both inner points sampled. -/
def start (ratio : α) (f : α → m α) (a b : α) : m (Bracket α) := do
  let c := innerLeft ratio a b
  let d := innerRight ratio a b
  let fc ← f c
  let fd ← f d
  return ⟨a, b, c, d, fc, fd⟩

/-- **One step.** The left part is kept where its inner point is strictly
better. -/
def narrow (ratio : α) (f : α → m α) (s : Bracket α) : m (Bracket α) :=
  if s.fc < s.fd then do
    let c := innerLeft ratio s.a s.d
    return { s with b := s.d, d := s.c, fd := s.fc, c := c, fc := ← f c }
  else do
    let d := innerRight ratio s.c s.b
    return { s with a := s.c, c := s.d, fc := s.fd, d := d, fd := ← f d }

/-- So many steps. -/
def narrowTimes (ratio : α) (f : α → m α) : (steps : Nat) → Bracket α → m (Bracket α)
  | 0, s => pure s
  | steps + 1, s => do narrowTimes ratio f steps (← narrow ratio f s)

/-- The middle of the bracket. -/
def middle [Div α] [OfNat α 2] (s : Bracket α) : α :=
  (s.a + s.b) / 2

end Bracket

/-- **The search on an interval** for a minimum of `rank`: the middle of the
last bracket, and what `f` is there. The number of steps is asked for once
the first bracket is sampled. -/
def goldenSection [Div α] [OfNat α 2] (ratio : α) (rank f : α → m α) (steps : m Nat) (a b : α) :
    m (α × α) := do
  let first ← Bracket.start ratio rank a b
  let last ← Bracket.narrowTimes ratio rank (← steps) first
  return (last.middle, ← f last.middle)

end Calculus

end Reckon
