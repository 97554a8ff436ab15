/-
The language whose paths are nothing but words (`Language.words`). A path is read off the front of a
list of tokens and ends where no further `::` follows; a `::` before a round bracket is not part of
it.
-/
import SerialConsole.Declaration.Fault
import SerialConsole.Declaration.Language
import SerialConsole.Declaration.Lexeme

namespace SerialConsole

/-! ## Words that are reserved -/

namespace Word

/-- The words that are no identifiers unless they are raw. -/
def reserved : List Text :=
  ["_", "abstract", "as", "async", "await", "become", "box", "break", "const", "continue", "crate",
    "do", "dyn", "else", "enum", "extern", "false", "final", "fn", "for", "if", "impl", "in", "let",
    "loop", "macro", "match", "mod", "move", "mut", "override", "priv", "pub", "ref", "return",
    "Self", "self", "static", "struct", "super", "trait", "true", "try", "type", "typeof", "unsafe",
    "unsized", "use", "virtual", "where", "while", "yield"].map String.toList

/-- The reserved words that may stand in a path. -/
def pathWords : List Text := ["super", "self", "crate", "Self", "try"].map String.toList

/-- The word is an identifier. -/
def isIdentifier (w : Word) : Bool := w.raw || !reserved.contains w.name

/-- The word may be a segment of a path. -/
def isSegment (w : Word) : Bool := w.isIdentifier || pathWords.contains w.name

end Word

/-- A text is no path of words. -/
inductive PathFault
  /-- It is not made of tokens. -/
  | lexical
  | tokens (fault : TokenFault)
  deriving DecidableEq, Repr

/-- What is said of a text that is no path. -/
def PathFault.message : PathFault → Text
  | .lexical => "cannot parse string into token stream".toList
  | .tokens fault => fault.message

/-! ## Paths off tokens -/

namespace Path

/-- A word of a path at the front. -/
def segment : List Token → Except TokenFault (Word × List Token)
  | [] => .error (.ended .identifier)
  | .word w :: tokens => if w.isSegment then .ok (w, tokens) else .error (.reserved w.name)
  | _ :: _ => .error (.wanted .identifier)

/-- The words that double colons add. -/
def more : List Token → Except TokenFault (List Word × List Token)
  | .mark ':' true :: .mark ':' joined :: .opening .round :: tokens =>
    .ok ([], .mark ':' true :: .mark ':' joined :: .opening .round :: tokens)
  | .mark ':' true :: .mark ':' _ :: .word w :: tokens =>
    if w.isSegment then
      (more tokens).map fun (words, tokens) => (w :: words, tokens)
    else
      .error (.reserved w.name)
  | [.mark ':' true, .mark ':' _] => .error (.ended .identifier)
  | .mark ':' true :: .mark ':' _ :: _ :: _ => .error (.wanted .identifier)
  | tokens => .ok ([], tokens)

/-- A path at the front, and the tokens after it. -/
def read (tokens : List Token) : Except TokenFault (Path × List Token) := do
  let (rooted, tokens) :=
    match tokens with
    | .mark ':' true :: .mark ':' _ :: tokens => (true, tokens)
    | tokens => (false, tokens)
  let (head, tokens) ← segment tokens
  let (tail, tokens) ← more tokens
  return (⟨rooted, head, tail⟩, tokens)

/-- The path that the tokens are, nothing left over. -/
def ofTokens (tokens : List Token) : Except TokenFault Path := do
  match ← read tokens with
  | (path, []) => return path
  | (_, _ :: _) => throw .leftover

/-- The path that the text is. -/
def ofText (t : Text) : Except PathFault Path :=
  match Token.ofText? t with
  | none => .error .lexical
  | some tokens => (ofTokens tokens).mapError .tokens

end Path

/-- The language whose paths are words. -/
def Language.words : Language Path where
  plain := id
  ofText t := (Path.ofText t).mapError PathFault.message
  read tokens := (Path.read tokens).mapError TokenFault.message
  render := Path.render
  isIdentifier := Word.isIdentifier

end SerialConsole
