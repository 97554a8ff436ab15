/-
What can be wrong with a declaration, and how it is said. A fault names its cause and the texts
involved; `message` is the only place that holds wording.
-/
import SerialConsole.Text.Basic
import SerialConsole.Text.Printable

namespace SerialConsole

/-- What the tokens should go on with. -/
inductive Wanted
  | modKeyword
  | identifier
  | semicolon
  | text
  deriving DecidableEq, Repr

/-- The tokens do not have the form they should. -/
inductive TokenFault
  /-- Another token stands there. -/
  | wanted (w : Wanted)
  /-- The tokens end there. -/
  | ended (w : Wanted)
  /-- An identifier is wanted and a reserved word stands there. -/
  | reserved (name : Text)
  /-- The clause has another key than it may. -/
  | key
  /-- There is no path, in the words of the language. -/
  | path (said : Text)
  /-- Something follows where all should be over. -/
  | leftover
  deriving DecidableEq, Repr

/-- An item of a table is no declaration. -/
inductive ItemFault
  | noColon (item : Text)
  | noName
  | badCharacter (name : Text) (c : Char)
  | noHandler (name : Text)
  /-- The path is none, in the words of the language. -/
  | badHandler (name path said : Text)
  deriving DecidableEq, Repr

/-- A text is no table. -/
inductive TableFault
  | item (fault : ItemFault)
  | empty
  deriving DecidableEq, Repr

/-- A text declares no module. -/
inductive Fault
  /-- It is not made of tokens. -/
  | lexical
  | tokens (fault : TokenFault)
  | table (fault : TableFault)
  deriving DecidableEq, Repr

/-! ## Wording -/

/-- The text between grave accents. -/
def Text.marked (t : Text) : Text := "`".toList ++ t ++ "`".toList

/-- What is said where something is wanted and another token stands there. -/
def Wanted.message : Wanted → Text
  | .modKeyword => "expected `mod`".toList
  | .identifier => "expected identifier".toList
  | .semicolon => "expected `;`".toList
  | .text => "expected string literal".toList

/-- What is said of tokens. Where a semicolon is wanted nothing is said of the end. -/
def TokenFault.message : TokenFault → Text
  | .wanted w => w.message
  | .ended .semicolon => Wanted.semicolon.message
  | .ended w => "unexpected end of input, ".toList ++ w.message
  | .reserved name => Wanted.identifier.message ++ ", found keyword ".toList ++ Text.marked name
  | .key => "Unexpected identifier, expected 'terminal'".toList
  | .path said => said
  | .leftover => "unexpected token".toList

/-- What is said of an item, with the texts as they are trimmed. -/
def ItemFault.message : ItemFault → Text
  | .noColon item => "expected `name: path`, found ".toList ++ Text.marked item
  | .noName => "command name is empty".toList
  | .badCharacter name c =>
    "command name ".toList ++ Text.marked name ++ " contains invalid character ".toList ++
      Text.quoteChar c
  | .noHandler name => "command ".toList ++ Text.marked name ++ " has no handler".toList
  | .badHandler name path said =>
    "invalid handler path ".toList ++ Text.marked path ++ " for ".toList ++ Text.marked name ++
      ": ".toList ++ said

/-- What is said of a table. -/
def TableFault.message : TableFault → Text
  | .item fault => fault.message
  | .empty => "command table is empty".toList

/-- What is said of a declaration. -/
def Fault.message : Fault → Text
  | .lexical => "the source is not a token stream".toList
  | .tokens fault => fault.message
  | .table fault => fault.message

end SerialConsole
