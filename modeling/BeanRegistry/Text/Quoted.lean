import BeanRegistry.Text.Hidden

set_option autoImplicit false

namespace BeanRegistry.Text

def escape (character : Char) : List Char :=
  match character with
  | '\x00' => ['\\', '0']
  | '\t' => ['\\', 't']
  | '\n' => ['\\', 'n']
  | '\r' => ['\\', 'r']
  | '\'' => ['\\', '\'']
  | '\\' => ['\\', '\\']
  | other =>
    if isHidden other then
      "\\u\x7b".toList ++ Nat.toDigits 16 other.toNat ++ ['\x7d']
    else [other]

def quoted (character : Char) : String :=
  String.ofList ('\'' :: escape character ++ ['\''])

end BeanRegistry.Text
