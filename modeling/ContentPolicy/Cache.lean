/-!
A cache of limited size, keyed by headers. When it is full, what was not used for the longest time
makes room.
-/

namespace ContentPolicy

structure Cache (α : Type) where
  /-- The one used last comes first. -/
  entries : List (List String × α)
  hits : Nat
  misses : Nat

namespace Cache

variable {α : Type}

def capacity : Nat := 128

def empty : Cache α := ⟨[], 0, 0⟩

def find? (c : Cache α) (key : List String) : Option α := c.entries.lookup key

/-- Moves an entry to the front. -/
def hit (c : Cache α) (key : List String) (a : α) : Cache α :=
  { c with entries := (key, a) :: c.entries.filter (·.1 != key), hits := c.hits + 1 }

def miss (c : Cache α) (key : List String) (a : α) : Cache α :=
  { c with entries := ((key, a) :: c.entries).take capacity, misses := c.misses + 1 }

end Cache

end ContentPolicy
