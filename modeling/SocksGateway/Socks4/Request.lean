import SocksGateway.Session.Basic

/-!
Requests of version 4: a command, a port, an IPv4 address and a user's name, which a NUL ends. An
address of the form `0.0.0.x`, where `x` is not zero, stands for a host name that follows.
-/

set_option autoImplicit false

namespace SocksGateway.Socks4

open Handler

structure Request where
  command : UInt8
  target : Target
  user : String
deriving DecidableEq, Repr, Inhabited

def version : UInt8 := 4

/-- The most octets of a user's name or of a host name. -/
def fieldLimit : Nat := 255

/-- Whether an address says that a host name follows. -/
def announcesName (ip : Ipv4) : Bool := ip.a == 0 && ip.b == 0 && ip.c == 0 && ip.d != 0

/-- The octets before a NUL, at most `room` of them. -/
def readToNul (what : String) : (room : Nat) → Handler Bytes
  | 0 => do
    if (← octet) ≠ 0 then fail (.protocol ("SOCKS4 " ++ what ++ " too long"))
    return []
  | room + 1 => do
    let first ← octet
    if first = 0 then return []
    return first :: (← readToNul what room)
where
  octet : Handler UInt8 := within ("Failed to read SOCKS4 " ++ what) readOctet

def readText (what : String) : Handler String := do
  match Bytes.text? (← readToNul what fieldLimit) with
  | some text => return text
  | none => fail (.protocol ("SOCKS4 " ++ what ++ " is not valid UTF-8"))

def readRequest : Handler Request := do
  match ← within "Failed to read SOCKS4 request" (readExactly 8) with
  | [first, command, high, low, a, b, c, d] =>
    if first ≠ version then
      fail (.protocol ("Not a SOCKS4 request: version " ++ toString first.toNat))
    let port := Bytes.word high low
    let ip : Ipv4 := ⟨a, b, c, d⟩
    let user ← readText "user id"
    if announcesName ip then
      let name ← readText "domain"
      if name.isEmpty then fail (.protocol "Empty SOCKS4a domain")
      return { command, target := .domain name port, user }
    return { command, target := .ip ⟨.v4 ip, port⟩, user }
  | _ => fail (.io .unexpectedEnd)

end SocksGateway.Socks4
