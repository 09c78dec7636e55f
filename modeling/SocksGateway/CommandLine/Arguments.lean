import SocksGateway.Store.Edit

/-!
Arguments of the command line: options, and then a command with its operands if the stores are to be
edited.
-/

set_option autoImplicit false

namespace SocksGateway

/-- What the command line is asked to do. -/
structure Invocation where
  configPath : String
  logLevel : String := "info"
  logsJson : Bool := false
  /-- The edit to carry out; without one, the gateway is run. -/
  edit : Option StoreEdit := none
deriving DecidableEq, Repr, Inhabited

/-- Why there is nothing to do. -/
inductive Declined where
  | help
  | version
  | misused (text : String)
deriving DecidableEq, Repr, Inhabited

namespace Invocation

/-- The options that were read so far. -/
structure Options where
  configPath : Option String := none
  logLevel : Option String := none
  logsJson : Bool := false
deriving DecidableEq, Repr, Inhabited

abbrev Parsed (α : Type) := Except Declined α

def misuse {α : Type} (text : String) : Parsed α := .error (.misused text)

def unexpected {α : Type} (argument : String) : Parsed α :=
  misuse ("unexpected argument '" ++ argument ++ "'")

/-- Whether an argument has the form of an option. A single hyphen does not. -/
def isOption (argument : String) : Bool := argument.startsWith "-" && argument != "-"

inductive OptionName where
  | config
  | logLevel
deriving DecidableEq, Repr, Inhabited

/-- Takes the value of an option over; no option is given twice. -/
def Options.give (options : Options) (name : OptionName) (value : String) : Parsed Options :=
  match name with
  | .config =>
    if options.configPath.isSome then misuse "--config is given more than once"
    else if value.isEmpty then misuse "--config needs a value"
    else .ok { options with configPath := some value }
  | .logLevel =>
    if options.logLevel.isSome then misuse "--log-level is given more than once"
    else .ok { options with logLevel := some value }

def Options.giveJson (options : Options) : Parsed Options :=
  if options.logsJson then misuse "--json-log is given more than once"
  else .ok { options with logsJson := true }

/-- What an argument that has the form of an option says. -/
inductive Shape where
  | help
  | version
  | json
  /-- An option whose value is the next argument. -/
  | awaiting (name : OptionName)
  | given (name : OptionName) (value : String)
  | unknown
deriving DecidableEq, Repr, Inhabited

/-- Short options take their value from the same argument, if it goes on. -/
def shortShape : List Char → Shape
  | ['h'] => .help
  | ['V'] => .version
  | ['c'] => .awaiting .config
  | ['l'] => .awaiting .logLevel
  | 'c' :: '=' :: value => .given .config (String.ofList value)
  | 'l' :: '=' :: value => .given .logLevel (String.ofList value)
  | 'c' :: value => .given .config (String.ofList value)
  | 'l' :: value => .given .logLevel (String.ofList value)
  | 'h' :: _ => .help
  | 'V' :: _ => .version
  | _ => .unknown

def longShape (text : String) : Shape :=
  let name := text.toList.takeWhile (· != '=')
  let value := text.toList.dropWhile (· != '=')
  match String.ofList name, value with
  | "config", [] => .awaiting .config
  | "config", _ :: value => .given .config (String.ofList value)
  | "log-level", [] => .awaiting .logLevel
  | "log-level", _ :: value => .given .logLevel (String.ofList value)
  | "json-log", [] => .json
  | "help", [] => .help
  | "version", [] => .version
  | _, _ => .unknown

def shape (argument : String) : Shape :=
  match argument.toList with
  | '-' :: '-' :: rest => longShape (String.ofList rest)
  | '-' :: rest => shortShape rest
  | _ => .unknown

/-- The operands of a command. Behind two hyphens every argument is an operand. -/
def operands : List String → Parsed (List String)
  | [] => .ok []
  | "--" :: rest => .ok rest
  | argument :: rest =>
    if argument = "-h" ∨ argument = "--help" then .error .help
    else if isOption argument then unexpected argument
    else do return argument :: (← operands rest)

def addresses (given : List String) : Parsed (List Ip) :=
  given.mapM fun text =>
    match Ip.parse? text with
    | some ip => .ok ip
    | none => misuse ("invalid value '" ++ text ++ "' for an address")

/-- The commands and what their operands are called. -/
def commands : List (String × List String) := [
  ("add-user", ["USERNAME", "PASSWORD"]), ("delete-user", ["USERNAME"]),
  ("create-network", ["NAME", "IP_RANGE"]), ("join-network", ["USERNAME", "NETWORK_ID"]),
  ("leave-network", ["USERNAME", "NETWORK_ID"]), ("add-host", ["HOSTNAME", "ADDRESSES..."])]

def editOf (command : String) (given : List String) : Parsed StoreEdit :=
  match command, given with
  | "add-user", [name, password] => .ok (.addUser name password)
  | "delete-user", [name] => .ok (.deleteUser name)
  | "create-network", [name, range] => .ok (.createNetwork name range)
  | "join-network", [user, network] => .ok (.joinNetwork user network)
  | "leave-network", [user, network] => .ok (.leaveNetwork user network)
  | "add-host", name :: first :: rest => do return .addHost name (← addresses (first :: rest))
  | _, _ => misuse ("wrong operands for '" ++ command ++ "'")

def ofOptions (options : Options) (edit : Option StoreEdit) : Parsed Invocation :=
  match options.configPath with
  | none => misuse "--config is required"
  | some configPath =>
    .ok { configPath, logLevel := options.logLevel.getD "info", logsJson := options.logsJson, edit }

/-- Reads the arguments behind the options that were already read. -/
def parseFrom (options : Options) : List String → Parsed Invocation
  | [] => ofOptions options none
  | "--" :: rest =>
    match rest with
    | [] => ofOptions options none
    | argument :: _ => unexpected argument
  | argument :: rest =>
    if isOption argument then
      match shape argument, rest with
      | .help, _ => .error .help
      | .version, _ => .error .version
      | .json, rest => do parseFrom (← options.giveJson) rest
      | .given name value, rest => do parseFrom (← options.give name value) rest
      | .awaiting name, value :: rest =>
        if isOption value then misuse (argument ++ " needs a value")
        else do parseFrom (← options.give name value) rest
      | .awaiting _, [] => misuse (argument ++ " needs a value")
      | .unknown, _ => unexpected argument
    else if (commands.lookup argument).isSome then do
      ofOptions options (some (← editOf argument (← operands rest)))
    else if argument = "help" then .error .help
    else unexpected argument

/-- What the arguments ask for. -/
def parse (arguments : List String) : Parsed Invocation := parseFrom {} arguments

end Invocation

end SocksGateway
