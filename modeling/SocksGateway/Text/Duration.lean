/-!
Spans of time and their text: the largest unit of which there is at least one, with as many
decimals as the span needs.
-/

set_option autoImplicit false

namespace SocksGateway

/-- A span of time, exact to the nanosecond. -/
structure Duration where
  nanoseconds : Nat
deriving DecidableEq, Repr, Inhabited

namespace Duration

def ofSeconds (seconds : Nat) : Duration := ⟨seconds * 1000000000⟩

def ofMilliseconds (milliseconds : Nat) : Duration := ⟨milliseconds * 1000000⟩

/-- Whole milliseconds, the rest dropped. -/
def milliseconds (duration : Duration) : Nat := duration.nanoseconds / 1000000

/-- The decimals of `remainder` parts in `10 ^ places`, without trailing zeros. -/
def decimals : (places remainder : Nat) → List Char
  | 0, _ => []
  | places + 1, remainder =>
    if remainder = 0 then []
    else
      let unit := Nat.pow 10 places
      Char.ofNat (48 + remainder / unit) :: decimals places (remainder % unit)

/-- A count of units of `10 ^ places` nanoseconds each. -/
def inUnits (places : Nat) (name : String) (nanoseconds : Nat) : String :=
  let unit := Nat.pow 10 places
  let fraction := decimals places (nanoseconds % unit)
  let whole := toString (nanoseconds / unit)
  if fraction.isEmpty then whole ++ name else whole ++ "." ++ String.ofList fraction ++ name

/-- Seconds from one second on, else milliseconds, else microseconds, else nanoseconds. -/
def text (duration : Duration) : String :=
  let nanoseconds := duration.nanoseconds
  if 1000000000 ≤ nanoseconds then inUnits 9 "s" nanoseconds
  else if 1000000 ≤ nanoseconds then inUnits 6 "ms" nanoseconds
  else if 1000 ≤ nanoseconds then inUnits 3 "µs" nanoseconds
  else inUnits 0 "ns" nanoseconds

end Duration

end SocksGateway
