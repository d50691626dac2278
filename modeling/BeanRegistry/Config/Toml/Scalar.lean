import BeanRegistry.Config.Datum
import BeanRegistry.Config.Numeral

set_option autoImplicit false

namespace BeanRegistry.Config.Toml

open Text

-- A single underscore may stand before a digit.
def moreDigits (isDigit : Char → Bool) : List Char → List Char × List Char
  | [] => ([], [])
  | '_' :: digit :: rest =>
    if isDigit digit then
      let (digits, rest) := moreDigits isDigit rest
      (digit :: digits, rest)
    else ([], '_' :: digit :: rest)
  | digit :: rest =>
    if isDigit digit then
      let (digits, rest) := moreDigits isDigit rest
      (digit :: digits, rest)
    else ([], digit :: rest)

def digits (isDigit : Char → Bool) : Reader (List Char) := do
  let first ← Reader.satisfy isDigit
  let rest ← fun text => some (moreDigits isDigit text)
  pure (first :: rest)

def sign : Reader Bool := do
  if ← Reader.accepts '-' then pure true
  else
    discard (Reader.accepts '+')
    pure false

def wholeDigits : Reader (List Char) := do
  match ← Reader.peek with
  | some '0' =>
    discard Reader.next
    pure ['0']
  | _ => digits (isDigitOf 10)

def basedInteger (mark : Char) (base : Nat) : Reader Datum := do
  Reader.literal ['0', mark]
  let value : Int := ofDigits base (← digits (isDigitOf base))
  if isSigned64 value then pure (.whole value) else failure

def decimalInteger : Reader Datum := do
  let isNegative ← sign
  let magnitude : Int := ofDigits 10 (← wholeDigits)
  let value := if isNegative then -magnitude else magnitude
  if isSigned64 value then pure (.whole value) else failure

def exponentPart : Reader Int := do
  discard (Reader.satisfy fun character => character == 'e' || character == 'E')
  let isNegative ← sign
  let magnitude : Int := ofDigits 10 (← digits (isDigitOf 10))
  pure (if isNegative then -magnitude else magnitude)

def fractionPart : Reader (List Char) := do
  Reader.expect '.'
  digits (isDigitOf 10)

-- A number that is too large is refused above zero only.
def decimalFraction : Reader Datum := do
  let isNegative ← sign
  let whole ← wholeDigits
  let fraction ← Reader.optional fractionPart
  let exponent ←
    match fraction with
    | none => exponentPart
    | some _ => do pure ((← Reader.optional exponentPart).getD 0)
  let decimals := fraction.getD []
  if !isNegative && overflowsDouble (ofDigits 10 (whole ++ decimals)) (exponent - decimals.length)
  then failure
  else pure .fractional

def specialNumber : Reader Datum := do
  discard sign
  Reader.literal ['i', 'n', 'f'] <|> Reader.literal ['n', 'a', 'n']
  pure .fractional

def field (places low high : Nat) : Reader Nat := do
  let value := ofDigits 10 (← Reader.exactly (isDigitOf 10) places)
  if low ≤ value && value ≤ high then pure value else failure

def isLeapYear (year : Nat) : Bool :=
  year % 4 = 0 && (year % 100 ≠ 0 || year % 400 = 0)

def daysOfMonth (year month : Nat) : Nat :=
  if month = 2 then if isLeapYear year then 29 else 28
  else if month = 4 || month = 6 || month = 9 || month = 11 then 30
  else 31

def date : Reader Unit := do
  let year ← field 4 0 9999
  Reader.expect '-'
  let month ← field 2 1 12
  Reader.expect '-'
  discard (field 2 1 (daysOfMonth year month))

-- The sixtieth second is a leap second.
def time : Reader Unit := do
  discard (field 2 0 23)
  Reader.expect ':'
  discard (field 2 0 59)
  Reader.expect ':'
  discard (field 2 0 60)
  discard (Reader.optional (do
    Reader.expect '.'
    discard (Reader.takeSome (isDigitOf 10))))

def offset : Reader Unit := do
  match ← Reader.next with
  | 'Z' | 'z' => pure ()
  | '+' | '-' =>
    discard (field 2 0 23)
    Reader.expect ':'
    discard (field 2 0 59)
  | _ => failure

def moment : Reader Datum := do
  (do
      date
      discard (Reader.optional (do
        discard (Reader.satisfy fun mark => mark == 'T' || mark == 't' || mark == ' ')
        time
        discard (Reader.optional offset)))) <|>
    time
  pure .moment

def number : Reader Datum :=
  moment <|> decimalFraction <|> specialNumber <|> basedInteger 'x' 16 <|> basedInteger 'o' 8 <|>
    basedInteger 'b' 2 <|> decimalInteger

end BeanRegistry.Config.Toml
