import SocksGateway.Access.Rule
import SocksGateway.Store.Hosts
import SocksGateway.Store.Networks
import SocksGateway.Target.Basic

/-!
Which destinations a client may reach, and at which endpoint. Membership of private networks governs
private addresses, access rules all other hosts. A name is looked up among the private hosts first;
only a name that is not there and that the rules allow goes to a resolver, and an answer in the
private ranges is subject to membership again.
-/

set_option autoImplicit false

namespace SocksGateway

/-- Why a destination is refused. -/
inductive Refusal where
  | anonymous
  | notMember
  | rules
deriving DecidableEq, Repr, Inhabited

def Refusal.message : Refusal → String
  | anonymous => "anonymous access to private address"
  | notMember => "not a member of the destination network"
  | rules => "rejected by access rules"

/-- What is decided about a destination. -/
inductive Decision where
  | allowed
  | denied (reason : Refusal)
deriving DecidableEq, Repr, Inhabited

/-- What decides about destinations. -/
structure RoutePolicy where
  rules : AccessRules
  networks : List PrivateNetwork
  hosts : List HostRecord
deriving Repr, Inhabited

/-- The answer of a resolver: the first address of a host, if there is any. -/
abbrev Resolver := String → Option Ip

namespace RoutePolicy

/-- No rules, no private networks and no private hosts. -/
def permissive : RoutePolicy := { rules := .empty, networks := [], hosts := [] }

/-- The target with the first private address of its host in place of the name, if there is one. -/
def resolvePrivate (policy : RoutePolicy) : Target → Target
  | .ip endpoint => .ip endpoint
  | .domain name port =>
    match HostRecord.lookup policy.hosts name with
    | ip :: _ => .ip ⟨ip, port⟩
    | [] => .domain name port

/-- Private addresses are for the users who share a network with them. -/
def authorizePrivate (policy : RoutePolicy) (ip : Ip) (user : Option String) : Decision :=
  match user with
  | none => .denied .anonymous
  | some name =>
    if name.isEmpty then .denied .anonymous
    else if PrivateNetwork.anyJoins policy.networks name ip then .allowed
    else .denied .notMember

/-- Other hosts are subject to the rules for destinations. -/
def authorizeHost (policy : RoutePolicy) (host : String) : Decision :=
  if policy.rules.allowsDestination host then .allowed else .denied .rules

/-- Decides about a target as it is given. -/
def authorize (policy : RoutePolicy) (target : Target) (user : Option String) : Decision :=
  match target with
  | .ip endpoint =>
    if endpoint.ip.isPrivate then policy.authorizePrivate endpoint.ip user
    else policy.authorizeHost endpoint.ip.text
  | .domain name _ => policy.authorizeHost name

def refused (target : Target) (reason : Refusal) : Failure :=
  { cause := .denied (target.text ++ ": " ++ reason.message) }

def unresolved (name : String) : Failure :=
  { cause := .unreachable ("Failed to resolve " ++ name) }

/-- The address of a name for which no resolver is asked: the text of an address stands for that
address, and a name with a NUL has none. -/
def settledName? (name : String) : Option (Option Ip) :=
  match Ip.parse? name with
  | some ip => some (some ip)
  | none => if name.toList.contains '\x00' then some none else none

/-- What is known about a target without a resolver. -/
inductive Plan where
  | settled (result : Except Failure Endpoint)
  /-- The rules allow this name, and a resolver has to answer for it. -/
  | lookup (name : String) (port : UInt16)

/-- Decides about the answer of a resolver for a name that the rules allow. -/
def conclude (policy : RoutePolicy) (name : String) (port : UInt16) (user : Option String) :
    Option Ip → Except Failure Endpoint
  | none => .error (unresolved name)
  | some ip =>
    if ip.isPrivate then
      match policy.authorizePrivate ip user with
      | .allowed => .ok ⟨ip, port⟩
      | .denied reason => .error (refused (.domain name port) reason)
    else .ok ⟨ip, port⟩

/-- Private hosts first, then the decision, then the address. -/
def plan (policy : RoutePolicy) (target : Target) (user : Option String) : Plan :=
  let target := policy.resolvePrivate target
  match policy.authorize target user with
  | .denied reason => .settled (.error (refused target reason))
  | .allowed =>
    match target with
    | .ip endpoint => .settled (.ok endpoint)
    | .domain name port =>
      match settledName? name with
      | some answer => .settled (policy.conclude name port user answer)
      | none => .lookup name port

/-- The endpoint at which a target is to be reached. -/
def route (policy : RoutePolicy) (resolver : Resolver) (target : Target) (user : Option String) :
    Except Failure Endpoint :=
  match policy.plan target user with
  | .settled result => result
  | .lookup name port => policy.conclude name port user (resolver name)

end RoutePolicy

end SocksGateway
