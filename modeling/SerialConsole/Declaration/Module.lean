/-
Modules as the program reads them: off a text, and with paths that are nothing but words.
-/
import SerialConsole.Declaration.Header
import SerialConsole.Declaration.Path

namespace SerialConsole

/-- A module of commands whose paths are words. -/
abbrev Module := CommandModule Path

namespace Module

/-- The module that the tokens declare. -/
def ofTokens (tokens : List Token) : Except Fault Module := CommandModule.ofTokens .words tokens

/-- The module that the text declares. -/
def ofText (t : Text) : Except Fault Module :=
  match Token.ofText? t with
  | none => .error .lexical
  | some tokens => ofTokens tokens

end Module

end SerialConsole
