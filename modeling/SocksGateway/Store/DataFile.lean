import SocksGateway.Failure

/-!
A file of the data directory: its text, if it exists, and whatever stands in the way of writing it.
-/

set_option autoImplicit false

namespace SocksGateway

/-- A file and the directory that it is in. -/
structure DataFile where
  directory : String
  path : String
  content : Option String := none
  /-- Why the directory cannot be created, where something else is in its place. -/
  obstacle : Option IoError := none
deriving DecidableEq, Repr, Inhabited

namespace DataFile

/-- The text in the file; nothing is found where the directory is blocked. -/
def read (file : DataFile) : Option String :=
  if file.obstacle.isSome then none else file.content

/-- Replaces the text, creating the directory first. -/
def write (file : DataFile) (text : String) : Except Failure DataFile :=
  match file.obstacle with
  | some error =>
    .error ((Failure.ofIo error).within ("Failed to create " ++ Text.quoted file.directory))
  | none => .ok { file with content := some text }

/-- The file after its directory was replaced by something that is none. -/
def blocked (file : DataFile) (error : IoError) : DataFile :=
  { file with obstacle := some error }

end DataFile

end SocksGateway
