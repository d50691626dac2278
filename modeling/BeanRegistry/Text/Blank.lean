set_option autoImplicit false

namespace BeanRegistry.Text

-- Inclusive ranges of the code points with the property White_Space.
def blankRanges : List (Nat × Nat) :=
  [(0x09, 0x0D), (0x20, 0x20), (0x85, 0x85), (0xA0, 0xA0), (0x1680, 0x1680), (0x2000, 0x200A),
    (0x2028, 0x2029), (0x202F, 0x202F), (0x205F, 0x205F), (0x3000, 0x3000)]

def isBlank (character : Char) : Bool :=
  blankRanges.any fun range => range.1 ≤ character.toNat && character.toNat ≤ range.2

def trimStart (text : List Char) : List Char :=
  text.dropWhile isBlank

def trimEnd (text : List Char) : List Char :=
  (trimStart text.reverse).reverse

def trim (text : List Char) : List Char :=
  trimEnd (trimStart text)

example : trim [' ', 'a', ' ', 'b', '\u3000', '\n'] = ['a', ' ', 'b'] := by decide

example : trim ['\u200b', 'a'] = ['\u200b', 'a'] := by decide

end BeanRegistry.Text
