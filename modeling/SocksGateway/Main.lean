import SocksGateway.CommandLine.Program
import SocksGateway.Sockets.Gateway

/-!
The command line.
-/

set_option autoImplicit false

namespace SocksGateway

def readText (path : String) : IO (Except IoError String) := do
  try return .ok (← IO.FS.readFile path)
  catch error => return .error (.ofSystem error)

/-- The system that the process runs on. -/
def system : Machine IO where
  read := readText
  write directory path text := do
    unless directory.isEmpty do IO.FS.createDirAll directory
    IO.FS.writeFile path text
  random count := do return .unpacked (← IO.getRandomBytes count.toUSize)
  serve configuration := do
    let path := configuration.server.dataDirectory
    match ← (DataDirectory.readFrom readText path RecordKind.all).run with
    | .error failure => return .error failure
    | .ok directory =>
      match Services.ofDirectory directory configuration.rules with
      | .error failure => return .error failure
      | .ok services => (services.serve configuration).run

end SocksGateway

def main (arguments : List String) : IO UInt32 := do
  let exit ← SocksGateway.system.run (← IO.getEnv "SOCKS_GATEWAY_LOG") arguments
  (← IO.getStdout).putStr exit.output
  (← IO.getStderr).putStr exit.error
  return exit.code
