import SocksGateway.CommandLine.Arguments
import SocksGateway.CommandLine.LogFilter
import SocksGateway.Config.Basic

/-!
The program: what it reads, in which order it fails, and what it shows at its end. Files, randomness
and the gateway itself are left to its caller.
-/

set_option autoImplicit false

namespace SocksGateway

/-- What a run leaves to its caller. -/
structure Exit where
  code : UInt32 := 0
  output : String := ""
  error : String := ""
deriving DecidableEq, Repr, Inhabited

namespace Exit

/-- Causes behind the outermost text, each on a line; several are numbered. -/
def causes : List String → List String
  | [] => []
  | [cause] => ["", "Caused by:", "    " ++ cause]
  | several => ["", "Caused by:"] ++
      several.mapIdx fun position cause => "    " ++ toString position ++ ": " ++ cause

def ofFailure (failure : Failure) : Exit where
  code := 1
  error := "\n".intercalate
    (("Error: " ++ failure.headline) :: causes (failure.texts.drop 1)) ++ "\n"

def ofOutcome : Except Failure EditOutcome → Exit
  | .ok outcome => { output := outcome.message ++ "\n" }
  | .error failure => ofFailure failure

def usage : String := "\n".intercalate [
  "Usage: socks-gateway [OPTIONS] --config <CONFIG> [COMMAND]",
  "",
  "Commands:",
  "\n".intercalate (Invocation.commands.map fun (name, operands) =>
    "  " ++ " ".intercalate (name :: operands.map fun operand => "<" ++ operand ++ ">")),
  "",
  "Options:",
  "  -c, --config <CONFIG>        Path of the configuration",
  "  -l, --log-level <LOG_LEVEL>  Log filter [default: info]",
  "      --json-log               Log in JSON",
  "  -h, --help                   Show this text",
  "  -V, --version                Show the version"] ++ "\n"

def ofDeclined : Declined → Exit
  | .help => { output := usage }
  | .version => { output := "socks-gateway 0.1.0\n" }
  | .misused text => { code := 2, error := "error: " ++ text ++ "\n\n" ++ usage }

end Exit

namespace Invocation

/-- The filter of the environment comes first; the one of the command line has to be valid if there
is no valid one in the environment. -/
def checkLogs (invocation : Invocation) (environment : Option String) : Except Failure Unit :=
  if environment.any LogFilter.isValid ∨ LogFilter.isValid invocation.logLevel then .ok ()
  else .error { cause := .remark ("Invalid log level: " ++ invocation.logLevel) }

/-- The configuration to work with, for what reading its file gives. -/
def configuration (invocation : Invocation) (environment : Option String)
    (content : Except IoError String) : Except Failure Configuration := do
  invocation.checkLogs environment
  Configuration.load invocation.configPath content

end Invocation

/-- Reads files of a data directory; one that is missing holds nothing. -/
def DataDirectory.readFrom {m : Type → Type} [Monad m] (read : String → m (Except IoError String))
    (path : String) (kinds : List RecordKind) : ExceptT Failure m DataDirectory := do
  let mut directory : DataDirectory := { path }
  for kind in kinds do
    match ← read (joined path kind.fileName) with
    | .ok text => directory := directory.put kind (some text)
    | .error .notFound => pure ()
    | .error error =>
      let file := directory.file kind
      throw ((Failure.ofIo error).within ("Failed to read " ++ Text.quoted file.path))
  return directory

/-- What a program needs of the machine that it runs on. -/
structure Machine (m : Type → Type) where
  read : String → m (Except IoError String)
  /-- Writes a text to the file at a path, creating its directory first. -/
  write : (directory path text : String) → m Unit
  /-- So many random octets. -/
  random : Nat → m Bytes
  /-- Runs the gateway until it is stopped. -/
  serve : Configuration → m (Except Failure Unit)

namespace Machine

variable {m : Type → Type} [Monad m]

/-- Writes the files that differ. -/
def writeDirectory (machine : Machine m) (kinds : List RecordKind) (old new : DataDirectory) :
    m Unit := do
  for kind in kinds do
    match new.content kind with
    | none => pure ()
    | some text =>
      if old.content kind ≠ some text then
        let file := new.file kind
        machine.write file.directory file.path text

/-- Carries out an edit in the files of a data directory. -/
def runEdit (machine : Machine m) (path : String) (edit : StoreEdit) : m Exit := do
  match ← (DataDirectory.readFrom machine.read path edit.kinds).run with
  | .error failure => return .ofFailure failure
  | .ok directory =>
    let (outcome, after) := edit.run (← machine.random 16) directory
    machine.writeDirectory edit.kinds directory after
    return .ofOutcome outcome

/-- Runs the program with its arguments and the log filter of its environment. -/
def run (machine : Machine m) (environment : Option String) (arguments : List String) : m Exit := do
  match Invocation.parse arguments with
  | .error declined => return .ofDeclined declined
  | .ok invocation =>
    match invocation.configuration environment (← machine.read invocation.configPath) with
    | .error failure => return .ofFailure failure
    | .ok configuration =>
      match invocation.edit with
      | some edit => machine.runEdit configuration.server.dataDirectory edit
      | none =>
        match ← machine.serve configuration with
        | .ok () => return {}
        | .error failure => return .ofFailure failure

end Machine

end SocksGateway
