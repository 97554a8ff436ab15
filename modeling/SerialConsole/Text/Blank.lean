/-
Blank characters, which are those with the property White_Space, and texts without blanks at their
ends.
-/
import SerialConsole.Text.Basic
import SerialConsole.Text.Ranges

namespace SerialConsole.Text

/-- The code points with the property White_Space. -/
def blanks : Ranges :=
  [
    (0x9, 0xD), (0x20, 0x20), (0x85, 0x85), (0xA0, 0xA0), (0x1680, 0x1680), (0x2000, 0x200A),
    (0x2028, 0x2029), (0x202F, 0x202F), (0x205F, 0x205F), (0x3000, 0x3000)
  ]

/-- The character is blank. -/
def isBlank (c : Char) : Bool := blanks.contains c.toNat

/-- The text without leading blanks. -/
def trimLeft (t : Text) : Text := t.dropWhile isBlank

/-- The text without trailing blanks. -/
def trimRight (t : Text) : Text := (t.reverse.dropWhile isBlank).reverse

/-- The text without blanks at either end. -/
def trim (t : Text) : Text := trimRight (trimLeft t)

end SerialConsole.Text
