/-
Texts as tokens. A lexeme is what stands at the front of a text: a blank or a comment, which is no
token; a comment that documents, which is several; a bracket, a literal, a mark or a word. Lexemes
are cut off the front until nothing is left, and the brackets among the tokens must balance.
-/
import SerialConsole.Declaration.Literal
import SerialConsole.Declaration.Token
import SerialConsole.Text.Blank

namespace SerialConsole.Token

/-! ## Comments -/

/-- A carriage return stands without a line feed. -/
def hasLoneReturn : Text → Bool
  | [] => false
  | '\r' :: '\n' :: t => hasLoneReturn t
  | c :: t => c == '\r' || hasLoneReturn t

/-- The length of the rest of a block comment, in which `depth` further comments are open. -/
def blockLength? : Nat → Text → Option Nat
  | _, [] => none
  | depth, '/' :: '*' :: t => (blockLength? (depth + 1) t).map (· + 2)
  | 0, '*' :: '/' :: _ => some 2
  | depth + 1, '*' :: '/' :: t => (blockLength? depth t).map (· + 2)
  | depth, _ :: t => (blockLength? depth t).map (· + 1)

/-- The tokens of a documenting comment: an attribute in square brackets, for what follows or for
what the comment stands in. -/
def documentation (inner : Bool) : List Token :=
  [.mark '#' false] ++ (if inner then [.mark '!' false] else []) ++
    [.opening .square, .closing .square]

/-- The tokens and the length of a comment to the end of the line. Three slashes document what
follows, but four do not; a bang documents what the comment stands in. -/
def lineComment? (t : Text) : Option (List Token × Nat) :=
  let length := (t.takeWhile (· ≠ '\n')).length
  let sound := !hasLoneReturn (t.take (length + 1))
  match t with
  | '/' :: '/' :: '!' :: _ => if sound then some (documentation true, length) else none
  | '/' :: '/' :: '/' :: '/' :: _ => some ([], length)
  | '/' :: '/' :: '/' :: _ => if sound then some (documentation false, length) else none
  | _ => some ([], length)

/-- The tokens and the length of a comment between `/*` and `*/`. Two stars document what follows,
but three do not, nor does the empty comment; a bang documents what the comment stands in. -/
def blockComment? (t : Text) : Option (List Token × Nat) := do
  let length := 2 + (← blockLength? 0 (t.drop 2))
  let sound := !hasLoneReturn (t.take (length - 2))
  match t with
  | '/' :: '*' :: '!' :: _ => if sound then some (documentation true, length) else none
  | '/' :: '*' :: '*' :: '/' :: _ | '/' :: '*' :: '*' :: '*' :: _ => some ([], length)
  | '/' :: '*' :: '*' :: _ => if sound then some (documentation false, length) else none
  | _ => some ([], length)

/-! ## Words and marks -/

/-- The words that cannot be raw. -/
def neverRaw : List Text := ["_", "super", "self", "Self", "crate"].map String.toList

/-- A word and its length. -/
def word? : Text → Option (Token × Nat)
  | 'r' :: '#' :: t =>
    (Literal.name? t).bind fun name =>
      if neverRaw.contains name then none
      else some (.word ⟨true, name⟩, name.length + 2)
  | t => (Literal.name? t).map fun name => (.word ⟨false, name⟩, name.length)

/-- The openings of literals, which start no word even where the literal is unsound. -/
def literalOpenings : List Text :=
  ["r\"", "r#\"", "r##", "b\"", "b'", "br\"", "br#", "c\"", "cr\"", "cr#"].map String.toList

/-- The punctuation marks. -/
def marks : List Char := "~!@#$%^&*-=+|;:,<.>/?'".toList

/-- A punctuation mark is at the front, and no comment. -/
def startsMark : Text → Bool
  | '/' :: '/' :: _ | '/' :: '*' :: _ | [] => false
  | c :: _ => marks.contains c

/-- The text after a single quote is a label: a word without a quote or a number sign after it. -/
def isLabel (t : Text) : Bool :=
  match word? t with
  | none => false
  | some (.word w, length) =>
    (t.drop length).head? ≠ some '\'' && (w.raw || (t.drop length).head? ≠ some '#')
  | some _ => false

/-- A punctuation mark. A single quote is one only before a label, and is joined to it. -/
def mark? (t : Text) : Option Token :=
  match t with
  | [] => none
  | c :: rest =>
    if !startsMark t then none
    else if c = '\'' then (if isLabel rest then some (.mark c true) else none)
    else some (.mark c (startsMark rest))

/-! ## Literals -/

/-- A literal without its suffix, and the length. -/
def unsuffixed? : Text → Option (Token × Nat)
  | '"' :: t => (Literal.quoted? .text t).map fun (value, n) => (.text value, n + 1)
  | 'r' :: t => (Literal.raw? .text t).map fun (value, n) => (.text value, n + 1)
  | 'b' :: '"' :: t => (Literal.quoted? .bytes t).map fun (_, n) => (.literal, n + 2)
  | 'b' :: 'r' :: t => (Literal.raw? .bytes t).map fun (_, n) => (.literal, n + 2)
  | 'b' :: '\'' :: t => (Literal.character? .bytes t).map fun n => (.literal, n + 2)
  | 'c' :: '"' :: t => (Literal.quoted? .terminated t).map fun (_, n) => (.literal, n + 2)
  | 'c' :: 'r' :: t => (Literal.raw? .terminated t).map fun (_, n) => (.literal, n + 2)
  | '\'' :: t => (Literal.character? .text t).map fun n => (.literal, n + 1)
  | _ => none

/-- A literal and its length. -/
def literal? (t : Text) : Option (Token × Nat) :=
  match unsuffixed? t with
  | some (token, n) => some (token, n + Literal.suffixLength (t.drop n))
  | none => (Literal.number? t).map (.literal, ·)

/-! ## Lexemes -/

/-- What stands for a literal that could not be read. -/
def placeholder : Text := "(/*ERROR*/)".toList

/-- A bracket as a token. -/
def bracket? : Char → Option Token
  | '(' => some (.opening .round)
  | ')' => some (.closing .round)
  | '[' => some (.opening .square)
  | ']' => some (.closing .square)
  | '\x7b' => some (.opening .curly)
  | '\x7d' => some (.closing .curly)
  | _ => none

/-- The marks that set the direction of writing are blank as well. -/
def isBlank (c : Char) : Bool := Text.isBlank c || c == '\u200e' || c == '\u200f'

/-- A literal, a mark or a word, and its length. A literal goes before a mark, and a mark before a
word. -/
def leaf? (t : Text) : Option (Token × Nat) :=
  (literal? t).or <| (mark? t).map (·, 1) |>.or <|
    if literalOpenings.any (·.isPrefixOf t) then none else word? t

/-- The tokens of the lexeme at the front, and its length. -/
def lexeme? (t : Text) : Option (List Token × Nat) :=
  match t with
  | [] => none
  | '/' :: '/' :: _ => lineComment? t
  | '/' :: '*' :: _ => blockComment? t
  | c :: _ =>
    if isBlank c then
      some ([], 1)
    else if placeholder.isPrefixOf t then
      some ([.literal], placeholder.length)
    else
      match bracket? c with
      | some token => some ([token], 1)
      | none => (leaf? t).map fun (token, n) => ([token], n)

/-- The tokens of a text, brackets balanced or not. -/
def lexemes? : Text → Option (List Token)
  | [] => some []
  | c :: t =>
    match lexeme? (c :: t) with
    | none => none
    | some (tokens, n) => (lexemes? (t.drop (n - 1))).map (tokens ++ ·)
termination_by t => t.length
decreasing_by simp +arith

/-- Every bracket is closed by its like, inside those that were opened before it. -/
def balanced : List Bracket → List Token → Bool
  | opened, [] => opened.isEmpty
  | opened, .opening b :: tokens => balanced (b :: opened) tokens
  | b :: opened, .closing b' :: tokens => b == b' && balanced opened tokens
  | [], .closing _ :: _ => false
  | opened, _ :: tokens => balanced opened tokens

/-- The tokens of a text. A mark of byte order in front is left out. -/
def ofText? (t : Text) : Option (List Token) :=
  let t := if t.head? = some '\ufeff' then t.tail else t
  (lexemes? t).filter (balanced [])

end SerialConsole.Token
