/-!
# Calculus — the central difference

The slope of a function at a point, from one sample on either side. The
numbers and the effects of a sample are any.
-/

namespace Reckon

namespace Calculus

variable {α : Type} [Add α] [Sub α] [Mul α] [Div α] [OfNat α 2]
variable {m : Type → Type} [Monad m]

/-- The difference of the samples at distance `h` over `2 h`. The sample on
the right is taken first. -/
def centralDifference (f : α → m α) (x h : α) : m α := do
  let right ← f (x + h)
  let left ← f (x - h)
  return (right - left) / (2 * h)

end Calculus

end Reckon
