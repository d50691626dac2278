set_option autoImplicit false

namespace BeanRegistry.Text

abbrev Reader : Type → Type :=
  StateT (List Char) Option

namespace Reader

def parse? {Result : Type} (reader : Reader Result) (text : List Char) : Option Result :=
  match reader text with
  | some (result, []) => some result
  | _ => none

def next : Reader Char
  | [] => none
  | character :: rest => some (character, rest)

def peek : Reader (Option Char) := do
  pure (← get).head?

def satisfy (wanted : Char → Bool) : Reader Char := do
  let character ← next
  if wanted character then pure character else failure

def expect (wanted : Char) : Reader Unit :=
  discard (satisfy (· == wanted))

def accepts (wanted : Char) : Reader Bool := do
  match ← get with
  | [] => pure false
  | character :: rest =>
    if character = wanted then
      set rest
      pure true
    else pure false

def literal : List Char → Reader Unit
  | [] => pure ()
  | character :: rest => do
    expect character
    literal rest

def takeWhile (wanted : Char → Bool) : Reader (List Char) :=
  fun text => some (text.takeWhile wanted, text.dropWhile wanted)

def takeSome (wanted : Char → Bool) : Reader (List Char) := do
  let taken ← takeWhile wanted
  if taken.isEmpty then failure else pure taken

def skipWhile (wanted : Char → Bool) : Reader Unit :=
  discard (takeWhile wanted)

def exactly (wanted : Char → Bool) : Nat → Reader (List Char)
  | 0 => pure []
  | count + 1 => do
    let first ← satisfy wanted
    let rest ← exactly wanted count
    pure (first :: rest)

def atEnd : Reader Bool := do
  pure (← get).isEmpty

def optional {Result : Type} (reader : Reader Result) : Reader (Option Result) :=
  (some <$> reader) <|> pure none

end Reader
end BeanRegistry.Text
