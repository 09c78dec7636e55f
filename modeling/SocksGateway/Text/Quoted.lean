import SocksGateway.Text.Escaped
import SocksGateway.Text.Hex

/-!
Texts as messages quote them: in double quotes, with short escapes for the common controls and
numbered escapes for every character that has no safe form of its own.
-/

set_option autoImplicit false

namespace SocksGateway.Text

/-- One character inside the quotes. -/
def quotedChar (char : Char) : List Char :=
  match char with
  | '\x00' => ['\\', '0']
  | '\t' => ['\\', 't']
  | '\n' => ['\\', 'n']
  | '\r' => ['\\', 'r']
  | '"' => ['\\', '"']
  | '\\' => ['\\', '\\']
  | _ =>
    if escaped.contains char then
      ['\\', 'u', '\x7b'] ++ Hex.digits char.toNat ++ ['\x7d']
    else [char]

/-- The text in quotes. -/
def quoted (text : String) : String :=
  String.ofList ('"' :: text.toList.flatMap quotedChar ++ ['"'])

end SocksGateway.Text
