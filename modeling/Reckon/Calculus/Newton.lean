import Reckon.Quantity
/-!
# Calculus — Newton's iteration

A root of a function by Newton's method. Each iterate is decisive or leads
to the next one: it may be a root, be so close to the next iterate that the
next one counts as a root, or have no finite value or slope.
-/

namespace Reckon

namespace Calculus

/-- How an iteration ends. -/
inductive RootSearch where
  /-- At a root, after so many steps. -/
  | found (x : Float) (iterations : Nat)
  /-- At a point where the function is not finite. -/
  | notFinite (x : Float)
  /-- At a point where the slope is zero or not finite. -/
  | flat (x : Float)
  /-- With the budget spent. -/
  | exhausted

variable {ε : Type}

/-- **Newton's iteration from `x`,** with `budget` iterates left and `done`
steps behind it. -/
def newton (f slope : Float → Except ε Float) (tolerance : Quantity) :
    (budget done : Nat) → Float → Except ε RootSearch
  | 0, _, _ => .ok .exhausted
  | budget + 1, done, x => do
    let fx ← f x
    if !fx.isFinite then return .notFinite x
    if tolerance.above fx.abs then return .found x done
    let s ← slope x
    if s == 0 || !s.isFinite then return .flat x
    let next := x - fx / s
    if tolerance.above (next - x).abs then return .found next (done + 1)
    newton f slope tolerance budget (done + 1) next

end Calculus

end Reckon
