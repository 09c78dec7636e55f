/-!
Limits on the number of connections that are served at a time. A connection over the limit is
refused at once; the limit zero stands for none.
-/

set_option autoImplicit false

namespace SocksGateway

structure Limiter where
  limit : Nat
  /-- How many connections are served. -/
  served : Nat := 0
deriving DecidableEq, Repr, Inhabited

namespace Limiter

/-- No limit is larger. -/
def largest : Nat := 0x1fffffffffffffff

/-- A limiter that has admitted nothing, for a limit that is not too large. -/
def ofLimit? (limit : Nat) : Option Limiter := if limit ≤ largest then some { limit } else none

def isUnlimited (limiter : Limiter) : Bool := limiter.limit == 0

/-- The connections that may still be admitted, if there is a limit. -/
def available (limiter : Limiter) : Option Nat :=
  if limiter.isUnlimited then none else some (limiter.limit - limiter.served)

/-- The limiter with one more connection, if there is room for it. -/
def grant? (limiter : Limiter) : Option Limiter :=
  if limiter.isUnlimited ∨ limiter.served < limiter.limit then
    some { limiter with served := limiter.served + 1 }
  else none

/-- The limiter after a connection that was admitted has ended. -/
def release (limiter : Limiter) : Limiter := { limiter with served := limiter.served - 1 }

end Limiter

/-- A limiter with the names under which connections were admitted. -/
structure Admissions where
  limiter : Limiter
  names : List Nat := []
deriving DecidableEq, Repr, Inhabited

namespace Admissions

/-- Ends the connection of that name; says whether there was one. -/
def release (name : Nat) (admissions : Admissions) : Bool × Admissions :=
  if admissions.names.contains name then
    (true, { limiter := admissions.limiter.release, names := admissions.names.erase name })
  else (false, admissions)

/-- Admits a connection, and then ends an earlier one of its name; says whether it was admitted. -/
def grant (name : Nat) (admissions : Admissions) : Bool × Admissions :=
  match admissions.limiter.grant? with
  | none => (false, admissions)
  | some limiter =>
    let (_, others) := { admissions with limiter : Admissions }.release name
    (true, { others with names := name :: others.names })

end Admissions

end SocksGateway
