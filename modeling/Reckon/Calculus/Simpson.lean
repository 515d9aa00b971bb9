/-!
# Calculus — composite Simpson integration

The integral over an interval, from samples at the ends of an even number
of equal parts with weights 1, 4, 2, …, 4, 1. The numbers and the effects of
a sample are any.
-/

namespace Reckon

namespace Calculus

/-- The double of a natural number. -/
instance natCastFloat : NatCast Float := ⟨Float.ofNat⟩

/-- The number of parts: an odd number is raised to the next even one. -/
def evenParts (n : Nat) : Nat :=
  if n % 2 = 0 then n else n + 1

/-- The weight of the `i`th inner sample. -/
def weight (i : Nat) : Nat :=
  if i % 2 = 0 then 2 else 4

variable {α : Type} [Add α] [Sub α] [Mul α] [Div α] [NatCast α] [BEq α]
variable {m : Type → Type} [Monad m]

/-- The inner samples `i`, `i + 1`, …, `count` of them, added to a total
from left to right. -/
def innerSum (f : α → m α) (lower h : α) : (count i : Nat) → α → m α
  | 0, _, total => pure total
  | count + 1, i, total => do
    let sample ← f (lower + (i : α) * h)
    innerSum f lower h count (i + 1) (total + (weight i : α) * sample)

/-- **The integral of `f` from `lower` to `upper`,** over at least `n`
parts. Equal bounds give zero without a sample. -/
def simpson (f : α → m α) (lower upper : α) (n : Nat) : m α :=
  if lower == upper then pure ((0 : Nat) : α)
  else do
    let parts := evenParts n
    let h := (upper - lower) / (parts : α)
    let first ← f lower
    let last ← f upper
    let total ← innerSum f lower h (parts - 1) 1 (first + last)
    return total * h / ((3 : Nat) : α)

end Calculus

end Reckon
