/-!
Sets of characters given by the places where membership changes.
-/

set_option autoImplicit false

namespace SocksGateway

/-- A set of code points: the ascending list of the code points at which membership changes,
starting outside the set. -/
structure CodeSet where
  changes : List Nat

namespace CodeSet

/-- A character is a member when an odd number of changes lies at or below it. -/
def contains (set : CodeSet) (char : Char) : Bool :=
  (set.changes.takeWhile (· ≤ char.toNat)).length % 2 == 1

end CodeSet

end SocksGateway
