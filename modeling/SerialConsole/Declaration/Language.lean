/-
Languages in which handlers are named. A handler is named by a path; how a path is read and printed
is left to the language (`Language`), and so is which words are identifiers. What headers and tables
rely on is little: a path that is read off tokens ends where they go on with a semicolon
(`Language.Reads`), and a path that is nothing but words is printed as them and read again
(`Language.Prints`).
-/
import SerialConsole.Declaration.Token
import SerialConsole.Text.Blank

namespace SerialConsole

/-! ## Paths of words -/

/-- Words with double colons between them, and maybe one in front. -/
structure Path where
  /-- The path starts with a double colon. -/
  rooted : Bool
  head : Word
  tail : List Word
  deriving DecidableEq, Repr

namespace Path

/-- The words in order. -/
def words (p : Path) : List Word := p.head :: p.tail

/-- The path without blanks. -/
def render (p : Path) : Text :=
  (if p.rooted then "::".toList else []) ++ List.intercalate "::".toList (p.words.map Word.render)

end Path

/-! ## Languages -/

/-- A language with paths of the type `P`. What is no path is refused in the language's own words. -/
structure Language (P : Type) where
  /-- The path of these words. -/
  plain : Path → P
  /-- The path that a text is. -/
  ofText : Text → Except Text P
  /-- The path at the front of tokens, and the tokens after it. -/
  read : List Token → Except Text (P × List Token)
  /-- The tokens of a path as they are printed, without blanks between them. -/
  render : P → Text
  /-- The word is an identifier, and none that the language reserves. -/
  isIdentifier : Word → Bool

namespace Language

variable {P : Type}

/-- The path is nothing but words. -/
def IsPlain (L : Language P) (path : P) : Prop := ∃ p, path = L.plain p

/-- Of tokens those are read that are a path by themselves, and no path goes on with a semicolon. An
identifier is a path, and `terminal` is an identifier. -/
structure Reads (L : Language P) : Prop where
  front : ∀ {tokens rest : List Token} {p : P}, L.read tokens = .ok (p, rest) →
    ∃ path, tokens = path ++ rest ∧ L.read path = .ok (p, [])
  closed : ∀ {path : List Token} {p : P}, L.read path = .ok (p, []) → ∀ joined rest,
    L.read (path ++ .mark ';' joined :: rest) = .ok (p, .mark ';' joined :: rest)
  word : ∀ {w : Word}, L.isIdentifier w = true → ∃ p, L.read [.word w] = .ok (p, [])
  terminal : L.isIdentifier ⟨false, "terminal".toList⟩ = true

/-- Where a text is read as a path of words, these hold no blanks and no commas; the path is printed
as its words with double colons, and this print is read as the same path. -/
structure Prints (L : Language P) : Prop where
  words : ∀ {t : Text} {p : Path}, L.ofText t = .ok (L.plain p) → ∀ w ∈ p.words,
    w.name ≠ [] ∧ ∀ c ∈ w.name, Text.isBlank c = false ∧ c ≠ ','
  render : ∀ {t : Text} {p : Path}, L.ofText t = .ok (L.plain p) → L.render (L.plain p) = p.render
  again : ∀ {t : Text} {p : Path}, L.ofText t = .ok (L.plain p) →
    L.ofText p.render = .ok (L.plain p)

end Language

end SerialConsole
