/-
A text cut at every character of a class. Between two cuts there is a piece, be it empty; `pieces`
leaves the empty ones out.
-/
import SerialConsole.Text.Basic

namespace SerialConsole.Text

/-- The text cut at every character that satisfies `cuts`, those characters left out. -/
def split (cuts : Char → Bool) : Text → List Text
  | [] => [[]]
  | c :: t =>
    if cuts c then
      [] :: split cuts t
    else
      match split cuts t with
      | [] => [[c]]
      | piece :: pieces => (c :: piece) :: pieces

/-- The pieces that are not empty. -/
def pieces (cuts : Char → Bool) (t : Text) : List Text := (split cuts t).filter (· ≠ [])

@[simp] theorem split_nil (cuts : Char → Bool) : split cuts [] = [[]] := rfl

end SerialConsole.Text
