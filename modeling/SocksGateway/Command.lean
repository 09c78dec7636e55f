/-!
The commands of a client. Both protocol versions number them alike.
-/

set_option autoImplicit false

namespace SocksGateway

/-- What a client asks the gateway to do. -/
inductive Command where
  | connect
  | bind
  | udpAssociate
deriving DecidableEq, Repr, Inhabited

namespace Command

def toByte : Command → UInt8
  | connect => 1
  | bind => 2
  | udpAssociate => 3

def ofByte? (byte : UInt8) : Option Command :=
  if byte = 1 then some connect
  else if byte = 2 then some bind
  else if byte = 3 then some udpAssociate
  else none

theorem ofByte?_eq_some_iff {byte : UInt8} {command : Command} :
    ofByte? byte = some command ↔ byte = command.toByte := by
  constructor
  · intro found
    unfold ofByte? at found
    split at found
    · rename_i same; cases found; exact same
    · split at found
      · rename_i same; cases found; exact same
      · split at found
        · rename_i same; cases found; exact same
        · cases found
  · rintro rfl
    cases command <;> rfl

end Command

end SocksGateway
