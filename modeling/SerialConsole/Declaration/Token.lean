/-
The tokens of a declaration: words, punctuation, text in double quotes, other literals, and
brackets. A word may be written raw, which lets it be one of the reserved words.
-/
import SerialConsole.Text.Basic

namespace SerialConsole

/-- An identifier as it is written. -/
structure Word where
  /-- The identifier follows `r#`. -/
  raw : Bool
  name : Text
  deriving DecidableEq, Repr

/-- The word as it is written. -/
def Word.render (w : Word) : Text := if w.raw then 'r' :: '#' :: w.name else w.name

/-- The pairs of brackets that group tokens. -/
inductive Bracket
  | round
  | square
  | curly
  deriving DecidableEq, Repr

/-- What a declaration is made of. Brackets are tokens of their own, one where a group opens and one
where it closes. -/
inductive Token
  | word (w : Word)
  /-- A punctuation mark, joined to the next token if that is punctuation and follows at once. -/
  | mark (c : Char) (joined : Bool)
  /-- Text in double quotes. -/
  | text (value : Text)
  /-- Any other literal. -/
  | literal
  | opening (b : Bracket)
  | closing (b : Bracket)
  deriving DecidableEq, Repr

end SerialConsole
