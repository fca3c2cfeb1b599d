import XmlExtract.Path.Expression

/-!
# Recently parsed patterns

A cache for callers that ask for the same expressions again and again.  It holds
up to `capacity` expressions with their patterns and forgets the one that was
asked for least recently.  An expression that cannot be parsed is not kept and
leaves the cache as it was.
-/

namespace XmlExtract

/-- Parsed expressions, the most recently asked for first. -/
structure RecentPatterns where
  capacity : Nat
  entries : List (String × Pattern)
  deriving Repr

namespace RecentPatterns

/-- The capacity of a cache whose owner names none. -/
def defaultCapacity : Nat := 64

/-- A cache without entries.  Its capacity is at least one. -/
def ofCapacity (capacity : Nat) : RecentPatterns := ⟨max capacity 1, []⟩

/-- Put an entry in front of the others and drop what exceeds the capacity. -/
def place (expression : String) (pattern : Pattern) (cache : RecentPatterns) :
    RecentPatterns :=
  let others := cache.entries.filter (·.1 ≠ expression)
  { cache with entries := ((expression, pattern) :: others).take cache.capacity }

/-- The pattern of an expression, from the cache if it is there. -/
def fetch (expression : String) (cache : RecentPatterns) :
    Except Error Pattern × RecentPatterns :=
  match cache.entries.lookup expression with
  | some pattern => (.ok pattern, cache.place expression pattern)
  | none =>
      match Pattern.parse expression with
      | .ok pattern => (.ok pattern, cache.place expression pattern)
      | .error error => (.error error, cache)

/-- Forget every expression. -/
def clear (cache : RecentPatterns) : RecentPatterns := { cache with entries := [] }

/-- The number of expressions held. -/
def size (cache : RecentPatterns) : Nat := cache.entries.length

/-- Whether no expression is held. -/
def isEmpty (cache : RecentPatterns) : Bool := cache.entries.isEmpty

end RecentPatterns

end XmlExtract
