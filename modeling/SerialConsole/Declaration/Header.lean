/-
Modules of commands. A module is declared by `mod`, its name and a semicolon; then, if need be,
`terminal`, an equals sign, the path under which consoles are known and a semicolon; then the table
in double quotes, and nothing more. What is wrong with the tokens is found before what is wrong with
the table.
-/
import SerialConsole.Console.Terminal
import SerialConsole.Declaration.Table

namespace SerialConsole

/-- The parts of a declared module, the table not yet read. -/
structure Header (P : Type) where
  name : Word
  /-- The path under which consoles are known, if it is given. -/
  terminal : Option P
  body : Text
  deriving DecidableEq, Repr

variable {P : Type} (L : Language P)

namespace Header

/-- The word that starts a header. -/
def modKeyword : Word := ⟨false, "mod".toList⟩

/-- The word that starts the clause. -/
def terminalKey : Word := ⟨false, "terminal".toList⟩

/-- The word `mod` at the front. -/
def expectMod : List Token → Except TokenFault (List Token)
  | [] => .error (.ended .modKeyword)
  | token :: tokens => if token = .word modKeyword then .ok tokens else .error (.wanted .modKeyword)

/-- An identifier at the front. -/
def identifier : List Token → Except TokenFault (Word × List Token)
  | [] => .error (.ended .identifier)
  | .word w :: tokens => if L.isIdentifier w then .ok (w, tokens) else .error (.reserved w.name)
  | _ :: _ => .error (.wanted .identifier)

/-- A semicolon at the front. -/
def semicolon : List Token → Except TokenFault (List Token)
  | [] => .error (.ended .semicolon)
  | .mark ';' _ :: tokens => .ok tokens
  | _ :: _ => .error (.wanted .semicolon)

/-- The clause that an identifier and an equals sign start; its key can only be `terminal`. -/
def clause : List Token → Except TokenFault (Option P × List Token)
  | .word w :: .mark '=' joined :: tokens =>
    if L.isIdentifier w then
      if w = terminalKey then do
        let (path, tokens) ← (L.read tokens).mapError .path
        let tokens ← semicolon tokens
        return (some path, tokens)
      else
        .error .key
    else
      .ok (none, .word w :: .mark '=' joined :: tokens)
  | tokens => .ok (none, tokens)

/-- Text in double quotes, and nothing after it. -/
def lastText : List Token → Except TokenFault Text
  | [] => .error (.ended .text)
  | [.text value] => .ok value
  | .text _ :: _ :: _ => .error .leftover
  | _ :: _ => .error (.wanted .text)

/-- The parts of the module that the tokens declare. -/
def ofTokens (tokens : List Token) : Except TokenFault (Header P) := do
  let tokens ← expectMod tokens
  let (name, tokens) ← identifier L tokens
  let tokens ← semicolon tokens
  let (terminal, tokens) ← clause L tokens
  let body ← lastText tokens
  return ⟨name, terminal, body⟩

end Header

/-- A module of commands. -/
structure CommandModule (P : Type) where
  name : Word
  /-- The path under which consoles are known. -/
  terminal : P
  declarations : List (Declaration P)
  deriving DecidableEq, Repr

namespace CommandModule

/-- The path under which consoles are known unless another is given. -/
def defaultTerminal : Path := ⟨true, ⟨false, "terminal_core".toList⟩, []⟩

/-- The module that the tokens declare. -/
def ofTokens (tokens : List Token) : Except Fault (CommandModule P) :=
  match Header.ofTokens L tokens with
  | .error fault => .error (.tokens fault)
  | .ok header =>
    match Table.ofText L header.body with
    | .error fault => .error (.table fault)
    | .ok declarations =>
      .ok ⟨header.name, header.terminal.getD (L.plain defaultTerminal), declarations⟩

/-- The names of the commands in order. -/
def names (m : CommandModule P) : List Text := m.declarations.map (·.name)

/-- The number of commands. -/
def size (m : CommandModule P) : Nat := m.declarations.length

/-- The additions of the commands to a terminal in order, given what the paths stand for. -/
def registrations {H : Type} (m : CommandModule P) (resolve : P → H) : List (Operation H) :=
  m.declarations.map fun d => .register d.name (resolve d.handler)

variable {L} {tokens : List Token}

theorem ofTokens_eq_ok_iff {m : CommandModule P} :
    ofTokens L tokens = .ok m ↔
      ∃ header declarations, Header.ofTokens L tokens = .ok header ∧
        Table.ofText L header.body = .ok declarations ∧
        m = ⟨header.name, header.terminal.getD (L.plain defaultTerminal), declarations⟩ := by
  constructor
  · intro h
    unfold ofTokens at h
    split at h
    · cases h
    next header parsed =>
    split at h
    · cases h
    next declarations read =>
    cases h
    exact ⟨header, declarations, parsed, read, rfl⟩
  · rintro ⟨header, declarations, parsed, read, rfl⟩
    simp only [ofTokens, parsed, read]

/-- The table counts only if nothing is wrong with the tokens. -/
theorem ofTokens_eq_error_iff {fault : Fault} :
    ofTokens L tokens = .error fault ↔
      (∃ wrong, fault = .tokens wrong ∧ Header.ofTokens L tokens = .error wrong) ∨
      ∃ wrong header, fault = .table wrong ∧ Header.ofTokens L tokens = .ok header ∧
        Table.ofText L header.body = .error wrong := by
  constructor
  · intro h
    unfold ofTokens at h
    split at h
    next wrong unparsed =>
      cases h
      exact .inl ⟨wrong, rfl, unparsed⟩
    next header parsed =>
    split at h
    next wrong refused =>
      cases h
      exact .inr ⟨wrong, header, rfl, parsed, refused⟩
    · cases h
  · rintro (⟨wrong, rfl, unparsed⟩ | ⟨wrong, header, rfl, parsed, refused⟩)
    · simp only [ofTokens, unparsed]
    · simp only [ofTokens, parsed, refused]

end CommandModule

end SerialConsole
