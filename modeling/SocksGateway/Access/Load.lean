import SocksGateway.Access.Rule
import SocksGateway.Document.Json
import SocksGateway.Store.DataFile

/-!
Access rules in documents, and the rules that are in force: those of the rules file, then others.
-/

set_option autoImplicit false

namespace SocksGateway

namespace Verdict

def name : Verdict → String
  | allow => "allow"
  | deny => "deny"

def ofValue? (dialect : Document.Dialect) (value : Document.Value) : Option Verdict := do
  match ← Document.alternative? dialect value with
  | "allow" => return allow
  | "deny" => return deny
  | _ => none

end Verdict

namespace Subject

def name : Subject → String
  | source => "source_ip"
  | destination => "destination_host"

def ofValue? (dialect : Document.Dialect) (value : Document.Value) : Option Subject := do
  match ← Document.alternative? dialect value with
  | "source_ip" => return source
  | "destination_host" => return destination
  | _ => none

end Subject

namespace AccessRule

def ofValue? (dialect : Document.Dialect) (value : Document.Value) : Option AccessRule := do
  match ← Document.slots? dialect ["type", "target", "pattern"] value with
  | [verdict, subject, pattern] =>
    return {
      verdict := (← Document.needed (Verdict.ofValue? dialect) verdict)
      subject := (← Document.needed (Subject.ofValue? dialect) subject)
      pattern := (← Document.needed Document.text? pattern) }
  | _ => none

def toValue (rule : AccessRule) : Document.Value := .record [
  ("type", .text rule.verdict.name), ("target", .text rule.subject.name),
  ("pattern", .text rule.pattern)]

end AccessRule

namespace AccessRules

/-- The rules in the text of a rules file. -/
def parse? (text : String) : Option (List AccessRule) :=
  (Document.Json.parse? text).bind
    (Document.list? (AccessRule.ofValue? Document.Json.dialect))

/-- The rules of the file, none if it is missing, and then the extra ones. -/
def load (file : DataFile) (extra : List AccessRule) : Except Failure AccessRules :=
  match file.read with
  | none => .ok ⟨extra⟩
  | some text =>
    match parse? text with
    | some rules => .ok ⟨rules ++ extra⟩
    | none =>
      .error { cause := .json, remarks := ["Failed to parse rules file: " ++ Text.quoted file.path] }

end AccessRules

end SocksGateway
