import SocksGateway.Access.Pattern
import SocksGateway.Address.Ip

/-!
Access rules. A denial that matches rejects, whatever else matches; otherwise something must allow
the input, unless there is no rule for inputs of its kind.
-/

set_option autoImplicit false

namespace SocksGateway

/-- What a rule that matches says. -/
inductive Verdict where
  | allow
  | deny
deriving DecidableEq, Repr, Inhabited

/-- What a rule looks at: the address a client comes from, or the host it asks for. -/
inductive Subject where
  | source
  | destination
deriving DecidableEq, Repr, Inhabited

structure AccessRule where
  verdict : Verdict
  subject : Subject
  pattern : String
deriving DecidableEq, Repr, Inhabited

namespace AccessRule

/-- Whether the rule is about `subject`, says `verdict` and matches `input`. -/
def applies (rule : AccessRule) (subject : Subject) (verdict : Verdict) (input : String) : Bool :=
  rule.subject == subject && rule.verdict == verdict && Pattern.admits rule.pattern input

end AccessRule

/-- The rules in force, in the order in which they were given. -/
structure AccessRules where
  rules : List AccessRule
deriving DecidableEq, Repr, Inhabited

namespace AccessRules

/-- Without rules everything is allowed. -/
def empty : AccessRules := ⟨[]⟩

def size (rules : AccessRules) : Nat := rules.rules.length

def isEmpty (rules : AccessRules) : Bool := rules.rules.isEmpty

/-- Denials override; without any rule for the subject the input is allowed. -/
def allows (rules : AccessRules) (subject : Subject) (input : String) : Bool :=
  if rules.rules.all (·.subject != subject) then true
  else if rules.rules.any (·.applies subject .deny input) then false
  else rules.rules.any (·.applies subject .allow input)

/-- Whether a client may connect from this address. Rules see the text of the address. -/
def allowsSource (rules : AccessRules) (ip : Ip) : Bool := rules.allows .source ip.text

/-- Whether this host, a name or the text of an address, may be asked for. -/
def allowsDestination (rules : AccessRules) (host : String) : Bool :=
  rules.allows .destination host

end AccessRules

end SocksGateway
