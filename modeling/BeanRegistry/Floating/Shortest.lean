import BeanRegistry.Floating.Pattern

set_option autoImplicit false

namespace BeanRegistry.Floating

-- What rounds to the middle lies between the ends, which are among it only when closed.
structure Rounding where
  low : Nat
  middle : Nat
  high : Nat
  scale : Nat
  closed : Bool

def Format.rounding (format : Format) (pattern : Nat) : Rounding :=
  let exponent := format.exponent pattern - 2
  let unit := Nat.pow 2 exponent.toNat
  let significand := format.significand pattern
  { low := (4 * significand - if format.nearBelow pattern then 1 else 2) * unit
    middle := 4 * significand * unit
    high := (4 * significand + 2) * unit
    scale := Nat.pow 2 (-exponent).toNat
    closed := significand % 2 = 0 }

structure Decimal where
  digits : Nat
  exponent : Int

namespace Rounding

def admits (rounding : Rounding) (decimal : Decimal) : Bool :=
  let value := decimal.digits * Nat.pow 10 decimal.exponent.toNat * rounding.scale
  let unit := Nat.pow 10 (-decimal.exponent).toNat
  if rounding.closed then rounding.low * unit ≤ value && value ≤ rounding.high * unit
  else rounding.low * unit < value && value < rounding.high * unit

def magnitude (rounding : Rounding) : Int :=
  let estimate : Int := (Nat.toDigits 10 rounding.middle).length
    - (Nat.toDigits 10 rounding.scale).length
  if rounding.scale * Nat.pow 10 estimate.toNat ≤ rounding.middle * Nat.pow 10 (-estimate).toNat then
    estimate
  else estimate - 1

def floor (rounding : Rounding) (exponent : Int) : Nat :=
  rounding.middle * Nat.pow 10 (-exponent).toNat / (rounding.scale * Nat.pow 10 exponent.toNat)

def leansUp (rounding : Rounding) (exponent : Int) : Bool :=
  (2 * rounding.floor exponent + 1) * (rounding.scale * Nat.pow 10 exponent.toNat)
    ≤ 2 * (rounding.middle * Nat.pow 10 (-exponent).toNat)

def nearest? (rounding : Rounding) (exponent : Int) : Option Decimal :=
  let below : Decimal := ⟨rounding.floor exponent, exponent⟩
  let above : Decimal := ⟨rounding.floor exponent + 1, exponent⟩
  match rounding.admits below, rounding.admits above with
  | true, true => some (if rounding.leansUp exponent then above else below)
  | true, false => some below
  | false, true => some above
  | false, false => none

-- Seventeen digits always suffice for the formats of this library.
def shortest (rounding : Rounding) : Decimal :=
  ((List.range 17).findSome? fun (places : Nat) =>
    rounding.nearest? (rounding.magnitude - places)).getD
      ⟨rounding.floor (rounding.magnitude - 17), rounding.magnitude - 17⟩

end Rounding

def Decimal.text (decimal : Decimal) : List Char :=
  let digits := Nat.toDigits 10 decimal.digits
  if 0 ≤ decimal.exponent then digits ++ List.replicate decimal.exponent.toNat '0'
  else
    let places := (-decimal.exponent).toNat
    let padded := List.replicate (places + 1 - digits.length) '0' ++ digits
    let whole := padded.take (padded.length - places)
    let fraction := ((padded.drop (padded.length - places)).reverse.dropWhile (· == '0')).reverse
    if fraction.isEmpty then whole else whole ++ '.' :: fraction

def Format.text (format : Format) (pattern : Nat) : String :=
  let sign := if format.isNegative pattern then "-" else ""
  if format.isNaN pattern then "NaN"
  else if format.isSpecial pattern then sign ++ "inf"
  else if format.magnitude pattern = 0 then sign ++ "0"
  else sign ++ String.ofList (format.rounding pattern).shortest.text

end BeanRegistry.Floating
