set_option autoImplicit false

namespace BeanRegistry.Text

-- A text without the separator is its own only piece.
def pieces (separator : Char) : List Char → List (List Char)
  | [] => [[]]
  | character :: rest =>
    if character = separator then [] :: pieces separator rest
    else
      match pieces separator rest with
      | [] => [[character]]
      | piece :: others => (character :: piece) :: others

def join (separator : Char) : List (List Char) → List Char
  | [] => []
  | [piece] => piece
  | piece :: next :: others => piece ++ separator :: join separator (next :: others)

theorem pieces_ne_nil (separator : Char) (text : List Char) : pieces separator text ≠ [] := by
  cases text with
  | nil => simp [pieces]
  | cons character rest =>
    by_cases same : character = separator
    next => simp [pieces, same]
    next => cases found : pieces separator rest <;> simp [pieces, same, found]

theorem join_pieces (separator : Char) (text : List Char) :
    join separator (pieces separator text) = text := by
  induction text with
  | nil => rfl
  | cons character rest ih =>
    by_cases same : character = separator
    next =>
      cases found : pieces separator rest with
      | nil => exact absurd found (pieces_ne_nil separator rest)
      | cons piece others => simpa [pieces, same, found, join] using found ▸ ih
    next =>
      cases found : pieces separator rest with
      | nil => exact absurd found (pieces_ne_nil separator rest)
      | cons piece others =>
        rw [found] at ih
        cases others <;> simp_all [pieces, join]

def cutAtFirst (separator : Char) : List Char → Option (List Char × List Char)
  | [] => none
  | character :: rest =>
    if character = separator then some ([], rest)
    else (cutAtFirst separator rest).map fun sides => (character :: sides.1, sides.2)

end BeanRegistry.Text
