/-!
Values of structured documents: what a file of settings or records holds, in whichever notation
it is written.
-/

set_option autoImplicit false

namespace SocksGateway.Document

/-- A value of a document. Entries of a record keep their order, and a name may stand twice. -/
inductive Value where
  | null
  | flag (value : Bool)
  | integer (value : Int)
  | text (value : String)
  | list (items : List Value)
  | record (entries : List (String × Value))
  /-- A well-formed value that no field takes: a number with a fraction or an exponent, a date, a
  text with escapes that name no character. -/
  | other
deriving Repr, Inhabited

end SocksGateway.Document
