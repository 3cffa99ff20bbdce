/-!
# Intervals

An interval holds what lies between its bounds by the order of its elements, which may leave
some of them unrelated. Both kinds of interval hold their lower bound; only the closed one holds
the upper one.
-/
namespace Covenant

/-- From a lower bound up to below an upper one. -/
structure HalfOpen (α : Type u) where
  /-- Lower bound. -/
  lower : α
  /-- Upper bound. -/
  upper : α

/-- From a lower bound up to an upper one. -/
structure Closed (α : Type u) where
  /-- Lower bound. -/
  lower : α
  /-- Upper bound. -/
  upper : α

variable {α : Type u} [LT α] [LE α] [DecidableLT α] [DecidableLE α]

/-- Whether an element lies in the interval. -/
def HalfOpen.contains (interval : HalfOpen α) (a : α) : Bool :=
  interval.lower ≤ a && a < interval.upper

/-- Whether an element lies in the interval. -/
def Closed.contains (interval : Closed α) (a : α) : Bool :=
  interval.lower ≤ a && a ≤ interval.upper

end Covenant
