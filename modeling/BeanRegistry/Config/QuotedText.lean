import BeanRegistry.Config.Numeral

set_option autoImplicit false

namespace BeanRegistry.Config

open Text

def isPlain (character : Char) : Bool :=
  character == '\t' || (' ' ≤ character && character != '\x7f')

def codePoint (count : Nat) : Reader Char := do
  let code := ofDigits 16 (← Reader.exactly (isDigitOf 16) count)
  if code.isValidChar then pure (Char.ofNat code) else failure

def escaped : Reader Char := do
  match ← Reader.next with
  | 'b' => pure '\x08'
  | 't' => pure '\t'
  | 'n' => pure '\n'
  | 'f' => pure '\x0c'
  | 'r' => pure '\r'
  | '"' => pure '"'
  | '\\' => pure '\\'
  | 'u' => codePoint 4
  | 'U' => codePoint 8
  | _ => failure

-- Every round takes at least a character.
def quotedRest : Nat → Reader (List Char)
  | 0 => failure
  | rounds + 1 => do
    match ← Reader.next with
    | '"' => pure []
    | '\\' =>
      let character ← escaped
      let rest ← quotedRest rounds
      pure (character :: rest)
    | character =>
      if isPlain character then
        let rest ← quotedRest rounds
        pure (character :: rest)
      else failure

def quotedText : Reader String := do
  Reader.expect '"'
  String.ofList <$> quotedRest (← get).length

end BeanRegistry.Config
