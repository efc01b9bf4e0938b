/-!
# Rolling series

A `Rolling α` keeps the most recent values of a series, oldest first, up to a capacity. A push
onto a series that is exactly full drops the oldest value first. A series built by
`Rolling.ofCapacity` has room for at least one value; one that was read from elsewhere is taken
as it is, so it may hold more values than its capacity or have a capacity of zero, and then it
only grows.
-/

namespace Kennel

/-- The latest values of a series, oldest first. -/
structure Rolling (α : Type) where
  capacity : Nat
  values : List α
  deriving Inhabited

namespace Rolling

variable {α : Type}

/-- An empty series with room for `n` values, and for one if `n` is zero. -/
def ofCapacity (n : Nat) : Rolling α := ⟨max n 1, []⟩

/-- Adds a value at the end; a series holding exactly its capacity drops its oldest value. -/
def push (r : Rolling α) (v : α) : Rolling α :=
  if r.values.length = r.capacity then { r with values := r.values.drop 1 ++ [v] }
  else { r with values := r.values ++ [v] }

def latest? (r : Rolling α) : Option α := r.values.getLast?

end Rolling

end Kennel
