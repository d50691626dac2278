import BeanRegistry.Text.Reader

set_option autoImplicit false

namespace BeanRegistry.Config

open Text

def digitValue? (character : Char) : Option Nat :=
  if character.isDigit then some (character.toNat - '0'.toNat)
  else if 'a' ≤ character && character ≤ 'f' then some (character.toNat - 'a'.toNat + 10)
  else if 'A' ≤ character && character ≤ 'F' then some (character.toNat - 'A'.toNat + 10)
  else none

def isDigitOf (base : Nat) (character : Char) : Bool :=
  match digitValue? character with
  | some value => value < base
  | none => false

-- Characters other than digits count as zero.
def ofDigits (base : Nat) (digits : List Char) : Nat :=
  digits.foldl (fun value digit => value * base + (digitValue? digit).getD 0) 0

def signedNumeral : Reader Int := do
  let isNegative ← Reader.accepts '-'
  unless isNegative do discard (Reader.accepts '+')
  let digits ← Reader.takeSome (isDigitOf 10)
  let value : Int := ofDigits 10 digits
  pure (if isNegative then -value else value)

def isUnsigned64 (value : Int) : Bool :=
  0 ≤ value && value < Nat.pow 2 64

def isSigned64 (value : Int) : Bool :=
  -Nat.pow 2 63 ≤ value && value < Nat.pow 2 63

-- Whether double precision rounds the number to infinity.
def overflowsDouble (digits : Nat) (exponent : Int) : Bool :=
  let places : Int := (Nat.toDigits 10 digits).length + exponent
  if digits = 0 || places < 309 then false
  else if 309 < places then true
  else Nat.pow 2 1024 - Nat.pow 2 970 ≤
    digits * Nat.pow 10 exponent.toNat / Nat.pow 10 (-exponent).toNat

end BeanRegistry.Config
