set_option autoImplicit false

namespace BeanRegistry.Floating

structure Format where
  exponentBits : Nat
  fractionBits : Nat

def single : Format := { exponentBits := 8, fractionBits := 23 }

def double : Format := { exponentBits := 11, fractionBits := 52 }

namespace Format

def exponentField (format : Format) (pattern : Nat) : Nat :=
  pattern / Nat.pow 2 format.fractionBits % Nat.pow 2 format.exponentBits

def fractionField (format : Format) (pattern : Nat) : Nat :=
  pattern % Nat.pow 2 format.fractionBits

def isNegative (format : Format) (pattern : Nat) : Bool :=
  pattern / Nat.pow 2 (format.fractionBits + format.exponentBits) % 2 = 1

def magnitude (format : Format) (pattern : Nat) : Nat :=
  pattern % Nat.pow 2 (format.fractionBits + format.exponentBits)

def isSpecial (format : Format) (pattern : Nat) : Bool :=
  format.exponentField pattern = Nat.pow 2 format.exponentBits - 1

def isNaN (format : Format) (pattern : Nat) : Bool :=
  format.isSpecial pattern && format.fractionField pattern != 0

-- A NaN differs from everything, and the two zeros are the same number.
def equal (format : Format) (left right : Nat) : Bool :=
  !format.isNaN left && !format.isNaN right &&
    (left == right || (format.magnitude left == 0 && format.magnitude right == 0))

def bias (format : Format) : Nat :=
  Nat.pow 2 (format.exponentBits - 1) - 1

def significand (format : Format) (pattern : Nat) : Nat :=
  if format.exponentField pattern = 0 then format.fractionField pattern
  else Nat.pow 2 format.fractionBits + format.fractionField pattern

def exponent (format : Format) (pattern : Nat) : Int :=
  (Nat.max (format.exponentField pattern) 1 : Int) - format.bias - format.fractionBits

-- Below a power of two the neighbouring number is only half a step away.
def nearBelow (format : Format) (pattern : Nat) : Bool :=
  format.fractionField pattern = 0 && 1 < format.exponentField pattern

end Format
end BeanRegistry.Floating
