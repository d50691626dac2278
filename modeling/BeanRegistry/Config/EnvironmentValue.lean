import BeanRegistry.Config.Datum
import BeanRegistry.Config.QuotedText
import BeanRegistry.Text.Blank

set_option autoImplicit false

namespace BeanRegistry.Config.EnvironmentValue

open Text

def isSpace (character : Char) : Bool :=
  character == ' ' || character == '\t' || character == '\n' || character == '\x0c' ||
    character == '\r'

def isSeparator (character : Char) : Bool :=
  character == ',' || character == '\x7b' || character == '\x7d' || character == '[' ||
    character == ']'

def isWord (character : Char) : Bool :=
  character.isAlphanum || character == '_' || character == '-'

def fraction : Reader Unit := do
  unless ← Reader.accepts '-' do discard (Reader.accepts '+')
  let whole ← Reader.takeWhile (isDigitOf 10)
  let decimals ←
    if ← Reader.accepts '.' then Reader.takeWhile (isDigitOf 10) else pure []
  if whole.isEmpty && decimals.isEmpty then failure
  let mark := Reader.satisfy fun character => character == 'e' || character == 'E'
  if (← Reader.optional mark).isSome then
    unless ← Reader.accepts '-' do discard (Reader.accepts '+')
    discard (Reader.takeSome (isDigitOf 10))

def bare (text : List Char) : Datum :=
  if text.contains '.' && (fraction.parse? text).isSome then .fractional
  else
    match signedNumeral.parse? text with
    | some value =>
      if isUnsigned64 value && text.head? != some '-' || isSigned64 value then .whole value
      else .text (String.ofList text)
    | none => .text (String.ofList text)

-- The items up to the closing bracket; a separator may stand before it.
def items (item : Reader Unit) (closing : Char) : Nat → Reader Unit
  | 0 => failure
  | rounds + 1 => do
    unless ← Reader.accepts closing do
      item
      if ← Reader.accepts ',' then items item closing rounds else Reader.expect closing

def withinBytes : Nat → List Char → List Char
  | _, [] => []
  | bytes, character :: rest =>
    if character.utf8Size ≤ bytes then
      character :: withinBytes (bytes - character.utf8Size) rest
    else []

example : withinBytes 2 ['\u00e9', 'a'] = ['\u00e9'] := by decide

-- Of what stands before the first escape only as many bytes count as there are characters.
def quoted : Reader String := do
  Reader.expect '"'
  let plain ← Reader.takeWhile fun character =>
    isPlain character && character != '"' && character != '\\'
  if (← Reader.peek) = some '\\' then
    let rest ← quotedRest (← get).length
    pure (String.ofList (withinBytes plain.length plain ++ rest))
  else
    Reader.expect '"'
    pure (String.ofList plain)

def key : Reader Unit := do
  match ← Reader.peek with
  | some '"' => discard quoted
  | _ => discard (Reader.takeSome isWord)

def entry (value : Reader Datum) : Reader Unit := do
  Reader.skipWhile isSpace
  key
  Reader.skipWhile isSpace
  Reader.expect '='
  discard value

def value : Nat → Reader Datum
  | 0 => failure
  | depth + 1 => do
    Reader.skipWhile isSpace
    let datum ←
      (do Reader.literal ['t', 'r', 'u', 'e']; pure (Datum.truth true)) <|>
      (do Reader.literal ['f', 'a', 'l', 's', 'e']; pure (Datum.truth false)) <|>
      (do
        match ← Reader.peek with
        | some '\x7b' =>
          discard Reader.next
          items (entry (value depth)) '\x7d' (← get).length
          pure Datum.record
        | some '[' =>
          discard Reader.next
          items (discard (value depth)) ']' (← get).length
          pure Datum.list
        | some '"' => Datum.text <$> quoted
        | some '\'' =>
          discard Reader.next
          let character ← Reader.next
          Reader.expect '\''
          pure (Datum.text (String.ofList [character]))
        | _ => do
          let run ← Reader.takeWhile fun character => !isSeparator character
          pure (bare (trim run)))
    Reader.skipWhile isSpace
    pure datum

def ofText (text : String) : Datum :=
  match (value (text.length + 1)).parse? text.toList with
  | some datum => datum
  | none => .text text

end BeanRegistry.Config.EnvironmentValue
