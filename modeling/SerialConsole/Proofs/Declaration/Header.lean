/-
The tokens of modules. A header is `mod`, a name and a semicolon, then the clause with a path if there
is one, then the table in double quotes and nothing more (`Header.Written`); which tokens are a path is
for the language to say. Other tokens are as they should be up to some place, and what is said to be
wrong with them is what is wrong there (`Header.Wrong`), or what the language says of the path that is
wanted there (`Header.WrongPath`). Tokens are read as the one or found wrong as the other
(`Header.ofTokens_eq_ok_iff`, `Header.ofTokens_eq_error_iff`), so the table counts only if nothing is
wrong with the tokens.
-/
import Mathlib.Data.List.Basic
import SerialConsole.Declaration.Header
import SerialConsole.Proofs.Declaration.Path

namespace SerialConsole

variable {P : Type} {L : Language P}

/-! ## Steps that fail -/

theorem bind_eq_error_iff {ε α β : Type} {x : Except ε α} {f : α → Except ε β} {e : ε} :
    x >>= f = .error e ↔ x = .error e ∨ ∃ a, x = .ok a ∧ f a = .error e := by
  cases x with
  | error e => simp [bind, Except.bind]
  | ok a => simp [bind, Except.bind]

theorem mapError_eq_error_iff {ε ε' α : Type} {x : Except ε α} {f : ε → ε'} {e : ε'} :
    x.mapError f = .error e ↔ ∃ cause, x = .error cause ∧ e = f cause := by
  cases x with
  | error cause => simp [Except.mapError, eq_comm]
  | ok a => simp [Except.mapError]

/-! ## Single tokens -/

/-- Where a token that `admits` takes is wanted there is none, and what is said of that. -/
inductive Missing (w : Wanted) (admits : Token → Prop) : List Token → TokenFault → Prop
  | ended : Missing w admits [] (.ended w)
  | other {token : Token} {tokens : List Token} (refused : ¬ admits token)
    (unnamed : w = .identifier → ∀ word, token ≠ .word word) :
    Missing w admits (token :: tokens) (.wanted w)
  /-- Where an identifier is wanted, a word that is none is named. -/
  | reserved {word : Word} {tokens : List Token} (wanted : w = .identifier)
    (refused : ¬ admits (.word word)) : Missing w admits (.word word :: tokens) (.reserved word.name)

theorem missing_nil_iff {w : Wanted} {admits : Token → Prop} {fault : TokenFault} :
    Missing w admits [] fault ↔ .ended w = fault := by
  constructor
  · rintro ⟨⟩
    rfl
  · rintro rfl
    exact .ended

/-- Only of a word where an identifier is wanted more is said. -/
theorem missing_cons_iff {w : Wanted} {admits : Token → Prop} {token : Token} {tokens : List Token}
    {fault : TokenFault} (other : w ≠ .identifier) :
    Missing w admits (token :: tokens) fault ↔ ¬ admits token ∧ .wanted w = fault := by
  constructor
  · intro missing
    cases missing with
    | other refused => exact ⟨refused, rfl⟩
    | reserved wanted => exact absurd wanted other
  · rintro ⟨refused, rfl⟩
    exact .other refused fun wanted => absurd wanted other

/-- What is missing is told by the one token that stands in its place. -/
theorem Missing.later {w : Wanted} {admits : Token → Prop} {token : Token} {tokens : List Token}
    {fault : TokenFault} (missing : Missing w admits (token :: tokens) fault) (others : List Token) :
    Missing w admits (token :: others) fault := by
  cases missing with
  | other refused unnamed => exact .other refused unnamed
  | reserved wanted refused => exact .reserved wanted refused

namespace Token

/-- The token is a semicolon. -/
def IsSemicolon (token : Token) : Prop := ∃ joined, token = .mark ';' joined

/-- The token is text in double quotes. -/
def IsText (token : Token) : Prop := ∃ value, token = .text value

/-- The token is a word that is admitted. -/
def IsWord (admits : Word → Bool) (token : Token) : Prop := ∃ w, token = .word w ∧ admits w = true

variable (admits : Word → Bool) {tokens : List Token} {fault : TokenFault}

theorem readWord_eq_error_iff :
    readWord admits tokens = .error fault ↔ Missing .identifier (IsWord admits) tokens fault := by
  unfold readWord
  split
  · constructor
    · rintro ⟨⟩
      exact .ended
    · rintro ⟨⟩
      rfl
  · next v tokens =>
    by_cases admitted : admits v = true
    · rw [if_pos admitted]
      constructor
      · rintro ⟨⟩
      · intro missing
        cases missing with
        | other refused | reserved _ refused => exact absurd ⟨v, rfl, admitted⟩ refused
    · rw [if_neg admitted]
      have refused : ¬ IsWord admits (.word v) := by
        rintro ⟨_, ⟨⟩, admitted'⟩
        exact admitted admitted'
      constructor
      · rintro ⟨⟩
        exact .reserved rfl refused
      · intro missing
        cases missing with
        | other _ unnamed => exact absurd rfl (unnamed rfl v)
        | reserved => rfl
  · next token tokens unworded =>
    have refused : ¬ IsWord admits token := by
      rintro ⟨v, rfl, -⟩
      exact unworded v rfl
    constructor
    · rintro ⟨⟩
      exact .other refused fun _ v same => unworded v same
    · intro missing
      cases missing with
      | other => rfl
      | reserved => exact absurd rfl (unworded _)

end Token

namespace Header

/-! ## The tokens of a header -/

/-- The tokens with which a module is named. -/
def Named (L : Language P) (tokens : List Token) (name : Word) : Prop :=
  L.isIdentifier name = true ∧ ∃ joined, tokens = [.word modKeyword, .word name, .mark ';' joined]

/-- The tokens of the clause, none if there is no clause. -/
inductive Clause (L : Language P) : List Token → Option P → Prop
  | absent : Clause L [] none
  | given {path : List Token} {p : P} {equals closed : Bool} : L.read path = .ok (p, []) →
    Clause L (.word terminalKey :: .mark '=' equals :: path ++ [.mark ';' closed]) (some p)

/-- The tokens of a header. -/
def Written (L : Language P) (tokens : List Token) (header : Header P) : Prop :=
  ∃ start clause, tokens = start ++ clause ++ [.text header.body] ∧ Named L start header.name ∧
    Clause L clause header.terminal

/-- Tokens with which a header begins, or which are one. -/
def Begins (L : Language P) (tokens : List Token) : Prop :=
  ∃ more header, Written L (tokens ++ more) header

/-- An identifier and an equals sign at the front, with which only a clause starts. -/
def StartsClause (L : Language P) (tokens : List Token) : Prop :=
  ∃ (w : Word) (joined : Bool) (more : List Token),
    tokens = .word w :: .mark '=' joined :: more ∧ L.isIdentifier w = true

/-- Tokens in the path of a clause, with all that is before them and behind them in a header. -/
inductive InPath (L : Language P) : List Token → List Token → List Token → Prop
  | intro {start left tokens right : List Token} {name : Word} {p : P} {equals closed : Bool}
      {body : Text} :
    Named L start name → L.read (left ++ tokens ++ right) = .ok (p, []) →
      InPath L (start ++ .word terminalKey :: .mark '=' equals :: left) tokens
        (right ++ [.mark ';' closed, .text body])

/-! ## What is wrong with tokens

Each of these relations has the tokens before a place, those from it on, and what is wrong there. -/

/-- The module is not named as it should be. -/
inductive WrongName (L : Language P) : List Token → List Token → TokenFault → Prop
  | keyword {behind : List Token} {fault : TokenFault} :
    Missing .modKeyword (· = .word modKeyword) behind fault → WrongName L [] behind fault
  | name {behind : List Token} {fault : TokenFault} :
    Missing .identifier (Token.IsWord L.isIdentifier) behind fault →
      WrongName L [.word modKeyword] behind fault
  | semicolon {name : Word} {behind : List Token} {fault : TokenFault} :
    L.isIdentifier name = true → Missing .semicolon Token.IsSemicolon behind fault →
      WrongName L [.word modKeyword, .word name] behind fault

/-- The tokens there are wrong, whatever the language says of paths. -/
inductive Wrong (L : Language P) : List Token → List Token → TokenFault → Prop
  | name {before behind : List Token} {fault : TokenFault} :
    WrongName L before behind fault → Wrong L before behind fault
  /-- The key of a clause can only be `terminal`. -/
  | key {start behind : List Token} {name w : Word} {joined : Bool} :
    Named L start name → L.isIdentifier w = true → w ≠ terminalKey →
      Wrong L start (.word w :: .mark '=' joined :: behind) .key
  /-- There is no table, and no clause either that might still go before it. -/
  | text {start clause behind : List Token} {name : Word} {terminal : Option P}
      {fault : TokenFault} :
    Named L start name → Clause L clause terminal → (terminal = none → ¬ StartsClause L behind) →
      Missing .text Token.IsText behind fault → Wrong L (start ++ clause) behind fault
  | leftover {start clause behind : List Token} {name : Word} {terminal : Option P} {body : Text}
      {token : Token} :
    Named L start name → Clause L clause terminal →
      Wrong L (start ++ clause ++ [.text body]) (token :: behind) .leftover

/-- In the clause no path is read, or one is and no semicolon closes the clause. -/
inductive WrongClause (L : Language P) : List Token → List Token → TokenFault → Prop
  | refused {behind : List Token} {equals : Bool} {said : Text} : L.read behind = .error said →
    WrongClause L [.word terminalKey, .mark '=' equals] behind (.path said)
  | unclosed {path behind : List Token} {equals : Bool} {p : P} {fault : TokenFault} :
    L.read (path ++ behind) = .ok (p, behind) → Missing .semicolon Token.IsSemicolon behind fault →
      WrongClause L (.word terminalKey :: .mark '=' equals :: path) behind fault

/-- The tokens there are wrong for what the language says of the path in the clause. -/
def WrongPath (L : Language P) (before behind : List Token) (fault : TokenFault) : Prop :=
  ∃ start name front, before = start ++ front ∧ Named L start name ∧ WrongClause L front behind fault

/-! ## Reading it piece by piece -/

variable {tokens rest : List Token} {name w : Word} {fault : TokenFault} {value : Text}
  {terminal : Option P} {header : Header P}

theorem expectMod_eq_ok_iff : expectMod tokens = .ok rest ↔ tokens = .word modKeyword :: rest := by
  unfold expectMod
  split
  · simp
  · split
    · next same => simp [same, eq_comm]
    · next other => simp [other]

theorem expectMod_eq_error_iff :
    expectMod tokens = .error fault ↔ Missing .modKeyword (· = .word modKeyword) tokens fault := by
  unfold expectMod
  split
  · rw [missing_nil_iff, Except.error.injEq]
  · split
    · next same => simp [missing_cons_iff, same]
    · next other => simp [missing_cons_iff, other]

theorem semicolon_eq_ok_iff :
    semicolon tokens = .ok rest ↔ ∃ joined, tokens = .mark ';' joined :: rest := by
  unfold semicolon
  split
  · simp
  · simp [eq_comm]
  · next token tokens unmarked =>
    constructor
    · rintro ⟨⟩
    · rintro ⟨joined, ⟨⟩⟩
      exact absurd rfl (unmarked joined)

theorem semicolon_eq_error_iff :
    semicolon tokens = .error fault ↔ Missing .semicolon Token.IsSemicolon tokens fault := by
  unfold semicolon
  split
  · rw [missing_nil_iff, Except.error.injEq]
  · simp [missing_cons_iff, Token.IsSemicolon]
  · next token tokens unmarked =>
    have refused : ¬ token.IsSemicolon := by
      rintro ⟨joined, rfl⟩
      exact unmarked joined rfl
    simp [missing_cons_iff, refused]

theorem identifier_eq_ok_iff :
    identifier L tokens = .ok (w, rest) ↔ tokens = .word w :: rest ∧ L.isIdentifier w = true :=
  Token.readWord_eq_ok_iff L.isIdentifier

theorem identifier_eq_error_iff :
    identifier L tokens = .error fault ↔
      Missing .identifier (Token.IsWord L.isIdentifier) tokens fault :=
  Token.readWord_eq_error_iff L.isIdentifier

theorem lastText_eq_ok_iff : lastText tokens = .ok value ↔ tokens = [.text value] := by
  fun_cases lastText tokens with
  | case1 => simp
  | case2 => simp
  | case3 => simp
  | case4 token tokens alone more =>
    constructor
    · rintro ⟨⟩
    · rintro ⟨⟩
      exact absurd rfl (alone value rfl)

theorem lastText_eq_error_iff :
    lastText tokens = .error fault ↔
      Missing .text Token.IsText tokens fault ∨
        ∃ value token behind, tokens = .text value :: token :: behind ∧ .leftover = fault := by
  fun_cases lastText tokens with
  | case1 => simp [missing_nil_iff]
  | case2 value => simp [missing_cons_iff, Token.IsText]
  | case3 value token behind => simp [missing_cons_iff, Token.IsText]
  | case4 token tokens alone more =>
    have refused : ¬ token.IsText := by
      rintro ⟨value, rfl⟩
      rcases tokens with _ | ⟨token, tokens⟩
      · exact alone value rfl rfl
      · exact more value token tokens rfl rfl
    have other (value : Text) : token ≠ .text value := fun same => refused ⟨value, same⟩
    simp [missing_cons_iff, refused, other]

/-! ## The clause -/

theorem isIdentifier_terminalKey (laws : L.Reads) : L.isIdentifier terminalKey = true :=
  laws.terminal

theorem clause_terminalKey (laws : L.Reads) (equals : Bool) (tokens : List Token) :
    clause L (.word terminalKey :: .mark '=' equals :: tokens) =
      (L.read tokens).mapError .path >>= fun found =>
        semicolon found.2 >>= fun rest => .ok (some found.1, rest) := by
  rw [clause, if_pos (isIdentifier_terminalKey laws), if_pos rfl]
  rfl

theorem clause_of_not_startsClause (h : ¬ StartsClause L tokens) :
    clause L tokens = .ok (none, tokens) := by
  fun_cases clause L tokens with
  | case1 joined tokens named => exact absurd ⟨_, _, _, rfl, named⟩ h
  | case2 w joined tokens named => exact absurd ⟨_, _, _, rfl, named⟩ h
  | case3 => rfl
  | case4 => rfl

theorem not_startsClause_text (body : Text) (tokens : List Token) :
    ¬ StartsClause L (.text body :: tokens) := nofun

theorem clause_eq_ok_iff (laws : L.Reads) :
    clause L tokens = .ok (terminal, rest) ↔
      ∃ front, tokens = front ++ rest ∧ Clause L front terminal ∧
        (terminal = none → ¬ StartsClause L rest) := by
  constructor
  · intro h
    by_cases starts : StartsClause L tokens
    · obtain ⟨w, equals, more, rfl, named⟩ := starts
      by_cases key : w = terminalKey
      · subst key
        rw [clause_terminalKey laws] at h
        obtain ⟨⟨p, later⟩, found, onward⟩ := bind_eq_ok_iff.1 h
        obtain ⟨left, closed, whole⟩ := bind_eq_ok_iff.1 onward
        cases whole
        obtain ⟨path, rfl, read⟩ := laws.front (mapError_eq_ok_iff.1 found)
        obtain ⟨joined, rfl⟩ := semicolon_eq_ok_iff.1 closed
        exact ⟨.word terminalKey :: .mark '=' equals :: path ++ [.mark ';' joined], by simp,
          .given read, nofun⟩
      · rw [clause, if_pos named, if_neg key] at h
        cases h
    · rw [clause_of_not_startsClause starts] at h
      cases h
      exact ⟨[], rfl, .absent, fun _ => starts⟩
  · rintro ⟨front, rfl, written, free⟩
    cases written with
    | absent => exact clause_of_not_startsClause (free rfl)
    | @given path p equals closed read =>
      have found := laws.closed read closed rest
      rw [List.append_assoc, List.cons_append, List.cons_append, clause_terminalKey laws]
      exact bind_eq_ok_iff.2 ⟨_, mapError_eq_ok_iff.2 found,
        bind_eq_ok_iff.2 ⟨_, semicolon_eq_ok_iff.2 ⟨_, rfl⟩, rfl⟩⟩

theorem clause_eq_error_iff (laws : L.Reads) :
    clause L tokens = .error fault ↔
      (∃ w joined more, tokens = .word w :: .mark '=' joined :: more ∧ L.isIdentifier w = true ∧
        w ≠ terminalKey ∧ fault = .key) ∨
      ∃ before behind, tokens = before ++ behind ∧ WrongClause L before behind fault := by
  constructor
  · intro h
    by_cases starts : StartsClause L tokens
    · obtain ⟨w, equals, more, rfl, named⟩ := starts
      by_cases key : w = terminalKey
      · subst key
        rw [clause_terminalKey laws] at h
        rcases bind_eq_error_iff.1 h with unread | ⟨⟨p, later⟩, found, onward⟩
        · obtain ⟨said, refused, rfl⟩ := mapError_eq_error_iff.1 unread
          exact .inr ⟨[.word terminalKey, .mark '=' equals], more, rfl, .refused refused⟩
        · have found := mapError_eq_ok_iff.1 found
          obtain ⟨path, rfl, -⟩ := laws.front found
          rcases bind_eq_error_iff.1 onward with unclosed | ⟨_, _, whole⟩
          · exact .inr ⟨.word terminalKey :: .mark '=' equals :: path, later, rfl,
              .unclosed found (semicolon_eq_error_iff.1 unclosed)⟩
          · cases whole
      · rw [clause, if_pos named, if_neg key] at h
        cases h
        exact .inl ⟨w, equals, more, rfl, named, key, rfl⟩
    · rw [clause_of_not_startsClause starts] at h
      cases h
  · rintro (⟨w, equals, more, rfl, named, key, rfl⟩ | ⟨before, behind, rfl, wrong⟩)
    · rw [clause, if_pos named, if_neg key]
    · cases wrong with
      | refused refused =>
        rw [List.cons_append, List.cons_append, List.nil_append, clause_terminalKey laws]
        exact bind_eq_error_iff.2 (.inl (mapError_eq_error_iff.2 ⟨_, refused, rfl⟩))
      | unclosed found missing =>
        rw [List.cons_append, List.cons_append, clause_terminalKey laws]
        exact bind_eq_error_iff.2 (.inr ⟨_, mapError_eq_ok_iff.2 found,
          bind_eq_error_iff.2 (.inl (semicolon_eq_error_iff.2 missing))⟩)

/-! ## The name -/

/-- The name of a module, and the tokens after it. -/
def readName (L : Language P) (tokens : List Token) : Except TokenFault (Word × List Token) := do
  let tokens ← expectMod tokens
  let (name, tokens) ← identifier L tokens
  let tokens ← semicolon tokens
  return (name, tokens)

theorem readName_eq_ok_iff :
    readName L tokens = .ok (name, rest) ↔ ∃ start, tokens = start ++ rest ∧ Named L start name := by
  constructor
  · intro h
    obtain ⟨later, opened, h⟩ := bind_eq_ok_iff.1 h
    obtain ⟨⟨v, later'⟩, called, h⟩ := bind_eq_ok_iff.1 h
    obtain ⟨left, closed, whole⟩ := bind_eq_ok_iff.1 h
    cases whole
    obtain rfl := expectMod_eq_ok_iff.1 opened
    obtain ⟨rfl, named⟩ := identifier_eq_ok_iff.1 called
    obtain ⟨joined, rfl⟩ := semicolon_eq_ok_iff.1 closed
    exact ⟨_, rfl, named, joined, rfl⟩
  · rintro ⟨_, rfl, named, joined, rfl⟩
    exact bind_eq_ok_iff.2 ⟨_, expectMod_eq_ok_iff.2 rfl, bind_eq_ok_iff.2
      ⟨_, identifier_eq_ok_iff.2 ⟨rfl, named⟩, bind_eq_ok_iff.2
        ⟨_, semicolon_eq_ok_iff.2 ⟨joined, rfl⟩, rfl⟩⟩⟩

theorem readName_eq_error_iff :
    readName L tokens = .error fault ↔
      ∃ before behind, tokens = before ++ behind ∧ WrongName L before behind fault := by
  constructor
  · intro h
    rcases bind_eq_error_iff.1 h with unopened | ⟨later, opened, onward⟩
    · exact ⟨[], tokens, rfl, .keyword (expectMod_eq_error_iff.1 unopened)⟩
    obtain rfl := expectMod_eq_ok_iff.1 opened
    rcases bind_eq_error_iff.1 onward with unnamed | ⟨⟨v, later'⟩, called, onward'⟩
    · exact ⟨[.word modKeyword], later, rfl, .name (identifier_eq_error_iff.1 unnamed)⟩
    obtain ⟨rfl, named⟩ := identifier_eq_ok_iff.1 called
    rcases bind_eq_error_iff.1 onward' with unclosed | ⟨_, _, whole⟩
    · exact ⟨[.word modKeyword, .word v], later', rfl,
        .semicolon named (semicolon_eq_error_iff.1 unclosed)⟩
    · cases whole
  · rintro ⟨before, behind, rfl, wrong⟩
    cases wrong with
    | keyword missing => exact bind_eq_error_iff.2 (.inl (expectMod_eq_error_iff.2 missing))
    | name missing =>
      exact bind_eq_error_iff.2 (.inr ⟨_, expectMod_eq_ok_iff.2 rfl, bind_eq_error_iff.2
        (.inl (identifier_eq_error_iff.2 missing))⟩)
    | semicolon named missing =>
      exact bind_eq_error_iff.2 (.inr ⟨_, expectMod_eq_ok_iff.2 rfl, bind_eq_error_iff.2
        (.inr ⟨_, identifier_eq_ok_iff.2 ⟨rfl, named⟩, bind_eq_error_iff.2
          (.inl (semicolon_eq_error_iff.2 missing))⟩)⟩)

/-! ## The whole header -/

theorem ofTokens_eq (tokens : List Token) :
    ofTokens L tokens = readName L tokens >>= fun named => clause L named.2 >>= fun found =>
      lastText found.2 >>= fun body => .ok ⟨named.1, found.1, body⟩ := by
  unfold readName
  simp only [bind_assoc, pure_bind]
  rfl

theorem ofTokens_named {start : List Token} (named : Named L start name) (rest : List Token) :
    ofTokens L (start ++ rest) =
      clause L rest >>= fun found => lastText found.2 >>= fun body => .ok ⟨name, found.1, body⟩ := by
  have called : readName L (start ++ rest) = .ok (name, rest) :=
    readName_eq_ok_iff.2 ⟨start, rfl, named⟩
  rw [ofTokens_eq, called]
  rfl

theorem ofTokens_clause (laws : L.Reads) {start front : List Token} (named : Named L start name)
    (written : Clause L front terminal) (free : terminal = none → ¬ StartsClause L rest) :
    ofTokens L (start ++ front ++ rest) =
      lastText rest >>= fun body => .ok ⟨name, terminal, body⟩ := by
  have found : clause L (front ++ rest) = .ok (terminal, rest) :=
    (clause_eq_ok_iff laws).2 ⟨front, rfl, written, free⟩
  rw [List.append_assoc, ofTokens_named named, found]
  rfl

theorem ofTokens_eq_ok_iff (laws : L.Reads) :
    ofTokens L tokens = .ok header ↔ Written L tokens header := by
  constructor
  · intro h
    rw [ofTokens_eq] at h
    obtain ⟨⟨name, later⟩, called, onward⟩ := bind_eq_ok_iff.1 h
    obtain ⟨⟨terminal, behind⟩, found, onward'⟩ := bind_eq_ok_iff.1 onward
    obtain ⟨body, told, whole⟩ := bind_eq_ok_iff.1 onward'
    cases whole
    obtain ⟨start, rfl, named⟩ := readName_eq_ok_iff.1 called
    obtain ⟨front, rfl, written, -⟩ := (clause_eq_ok_iff laws).1 found
    obtain rfl := lastText_eq_ok_iff.1 told
    exact ⟨start, front, (List.append_assoc ..).symm, named, written⟩
  · rintro ⟨start, front, rfl, named, written⟩
    exact ofTokens_clause laws named written fun _ => not_startsClause_text header.body []

theorem ofTokens_eq_error_iff (laws : L.Reads) :
    ofTokens L tokens = .error fault ↔
      ∃ before behind, tokens = before ++ behind ∧
        (Wrong L before behind fault ∨ WrongPath L before behind fault) := by
  constructor
  · intro h
    rw [ofTokens_eq] at h
    rcases bind_eq_error_iff.1 h with uncalled | ⟨⟨name, later⟩, called, onward⟩
    · obtain ⟨before, behind, rfl, wrong⟩ := readName_eq_error_iff.1 uncalled
      exact ⟨before, behind, rfl, .inl (.name wrong)⟩
    obtain ⟨start, rfl, named⟩ := readName_eq_ok_iff.1 called
    rcases bind_eq_error_iff.1 onward with refused | ⟨⟨terminal, left⟩, found, onward'⟩
    · rcases (clause_eq_error_iff laws).1 refused with
        ⟨w, joined, more, rfl, identifier, other, rfl⟩ | ⟨front, behind, rfl, wrong⟩
      · exact ⟨start, _, rfl, .inl (.key named identifier other)⟩
      · exact ⟨start ++ front, behind, (List.append_assoc ..).symm,
          .inr ⟨start, name, front, rfl, named, wrong⟩⟩
    obtain ⟨front, rfl, written, free⟩ := (clause_eq_ok_iff laws).1 found
    rcases bind_eq_error_iff.1 onward' with untold | ⟨_, _, whole⟩
    · rcases lastText_eq_error_iff.1 untold with missing | ⟨body, token, behind, rfl, rfl⟩
      · exact ⟨start ++ front, left, (List.append_assoc ..).symm,
          .inl (.text named written free missing)⟩
      · exact ⟨start ++ front ++ [.text body], token :: behind, by simp,
          .inl (.leftover named written)⟩
    · cases whole
  · rintro ⟨before, behind, rfl, wrong | ⟨start, name, front, rfl, named, wrong⟩⟩
    · cases wrong with
      | name wrong =>
        rw [ofTokens_eq]
        exact bind_eq_error_iff.2 (.inl (readName_eq_error_iff.2 ⟨_, _, rfl, wrong⟩))
      | key named identifier other =>
        rw [ofTokens_named named]
        exact bind_eq_error_iff.2
          (.inl ((clause_eq_error_iff laws).2 (.inl ⟨_, _, _, rfl, identifier, other, rfl⟩)))
      | text named written free missing =>
        rw [ofTokens_clause laws named written free]
        exact bind_eq_error_iff.2 (.inl (lastText_eq_error_iff.2 (.inl missing)))
      | leftover named written =>
        rw [List.append_assoc, List.singleton_append,
          ofTokens_clause laws named written fun _ => not_startsClause_text _ _]
        rfl
    · rw [List.append_assoc, ofTokens_named named]
      exact bind_eq_error_iff.2
        (.inl ((clause_eq_error_iff laws).2 (.inr ⟨_, _, rfl, wrong⟩)))

/-! ## Up to the wrong place -/

variable {before behind : List Token}

theorem WrongName.begins (laws : L.Reads) (wrong : WrongName L before behind fault) :
    ∃ more name, Named L (before ++ more) name := by
  have named {v : Word} (h : L.isIdentifier v = true) :
      Named L [.word modKeyword, .word v, .mark ';' false] v := ⟨h, false, rfl⟩
  cases wrong with
  | keyword => exact ⟨_, _, named (isIdentifier_terminalKey laws)⟩
  | name => exact ⟨_, _, named (isIdentifier_terminalKey laws)⟩
  | semicolon identifier => exact ⟨_, _, named identifier⟩

theorem WrongClause.begins (laws : L.Reads) (wrong : WrongClause L before behind fault) :
    ∃ more terminal, Clause L (before ++ more) terminal := by
  have given {path : List Token} {p : P} (equals : Bool) (read : L.read path = .ok (p, [])) :
      Clause L (.word terminalKey :: .mark '=' equals :: path ++ [.mark ';' false]) (some p) :=
    .given read
  cases wrong with
  | refused =>
    obtain ⟨p, read⟩ := laws.word laws.terminal
    exact ⟨[.word terminalKey, .mark ';' false], some p, given _ read⟩
  | unclosed found =>
    obtain ⟨path, same, read⟩ := laws.front found
    rw [List.append_cancel_right same]
    exact ⟨_, _, given _ read⟩

/-- Up to the place where they go wrong, tokens are the beginning of a header. -/
theorem Wrong.begins (laws : L.Reads) (wrong : Wrong L before behind fault) : Begins L before := by
  cases wrong with
  | name wrong =>
    obtain ⟨more, name, named⟩ := wrong.begins laws
    exact ⟨more ++ [.text []], ⟨name, none, []⟩, before ++ more, [], by simp, named, .absent⟩
  | @key _ _ name _ _ named =>
    exact ⟨[.text []], ⟨name, none, []⟩, before, [], by simp, named, .absent⟩
  | @text start front _ name terminal _ named written =>
    exact ⟨[.text []], ⟨name, terminal, []⟩, start, front, rfl, named, written⟩
  | @leftover start front _ name terminal body _ named written =>
    exact ⟨[], ⟨name, terminal, body⟩, start, front, List.append_nil _, named, written⟩

theorem WrongPath.begins (laws : L.Reads) (wrong : WrongPath L before behind fault) :
    Begins L before := by
  obtain ⟨start, name, front, rfl, named, wrong⟩ := wrong
  obtain ⟨more, terminal, written⟩ := wrong.begins laws
  exact ⟨more ++ [.text []], ⟨name, terminal, []⟩, start, front ++ more, by simp, named, written⟩

/-! ## Behind the wrong place -/

section Later

variable {a b : Token}

theorem StartsClause.later (h : StartsClause L (a :: b :: tokens)) (others : List Token) :
    StartsClause L (a :: b :: others) := by
  obtain ⟨w, joined, more, ⟨⟩, named⟩ := h
  exact ⟨w, joined, others, rfl, named⟩

theorem WrongName.later (wrong : WrongName L before (a :: tokens) fault) (others : List Token) :
    WrongName L before (a :: others) fault := by
  cases wrong with
  | keyword missing => exact .keyword (missing.later _)
  | name missing => exact .name (missing.later _)
  | semicolon named missing => exact .semicolon named (missing.later _)

/-- What is wrong is told by the next two tokens, whatever follows them. -/
theorem Wrong.later (wrong : Wrong L before (a :: b :: tokens) fault) (others : List Token) :
    Wrong L before (a :: b :: others) fault := by
  cases wrong with
  | name wrong => exact .name (wrong.later _)
  | key named identifier other => exact .key named identifier other
  | text named written free missing =>
    exact .text named written (fun absent starts => free absent (starts.later _)) (missing.later _)
  | leftover named written => exact .leftover named written

end Later

theorem Wrong.of_take_eq {other : List Token} (wrong : Wrong L before behind fault)
    (same : other.take 2 = behind.take 2) : Wrong L before other fault := by
  rcases Nat.lt_or_ge behind.length 2 with short | long
  · -- Fewer than two tokens are all there are.
    have lengths := congrArg List.length same
    rw [List.length_take, List.length_take] at lengths
    rw [List.take_of_length_le (by omega), List.take_of_length_le (by omega)] at same
    rwa [same]
  · obtain ⟨a, b, near⟩ := List.length_eq_two.1 (List.length_take_of_le long)
    have whole {tokens : List Token} (h : tokens.take 2 = [a, b]) :
        tokens = a :: b :: tokens.drop 2 := by
      conv_lhs => rw [← List.take_append_drop 2 tokens, h]
      rfl
    rw [whole near] at wrong
    rw [whole (same.trans near)]
    exact wrong.later _

/-- Any other word than the key of the clause stands before an equals sign only in the path. -/
theorem Written.inPath {joined : Bool} (h : Written L tokens header)
    (found : tokens = before ++ .word w :: .mark '=' joined :: behind) (other : w ≠ terminalKey) :
    InPath L before [.word w, .mark '=' joined] behind := by
  obtain ⟨name, terminal, body⟩ := header
  obtain ⟨start, front, rfl, ⟨identifier, closed, rfl⟩, written⟩ := h
  -- No token of the name is an equals sign.
  rcases before with _ | ⟨_, _ | ⟨_, _ | ⟨_, before⟩⟩⟩
  · cases found
  · cases found
  · cases found
  rw [List.append_assoc] at found
  obtain ⟨rfl, rfl, rfl, after⟩ : _ ∧ _ ∧ _ ∧
      front ++ [.text body] = before ++ .word w :: .mark '=' joined :: behind := by
    simpa using found
  cases written with
  | absent => cases before <;> simp at after
  | @given path p equals closed' read =>
    rcases before with _ | ⟨_, _ | ⟨_, before⟩⟩
    · cases after
      exact absurd rfl other
    · cases after
    · obtain ⟨rfl, rfl, later⟩ : _ ∧ _ ∧ path ++ [.mark ';' closed', .text body] =
          before ++ .word w :: .mark '=' joined :: behind := by
        simpa using after
      -- Behind the path there is no equals sign either.
      rcases List.append_eq_append_iff.1 later with ⟨extra, -, last⟩ | ⟨extra, rfl, last⟩
      · rcases extra with _ | ⟨_, _ | ⟨_, extra⟩⟩
        · cases last
        · cases last
        · simp at last
      · rcases extra with _ | ⟨_, _ | ⟨_, right⟩⟩
        · cases last
        · cases last
        · cases last
          exact .intro ⟨identifier, closed, rfl⟩ (by simpa using read)

end Header

/-! ## Modules -/

namespace CommandModule

variable {tokens : List Token} {m : CommandModule P} {fault : Fault}

theorem ofTokens_eq_ok_iff_written (laws : L.Reads) :
    ofTokens L tokens = .ok m ↔
      ∃ header declarations, Header.Written L tokens header ∧
        Table.ofText L header.body = .ok declarations ∧
        m = ⟨header.name, header.terminal.getD (L.plain defaultTerminal), declarations⟩ := by
  simp only [ofTokens_eq_ok_iff, Header.ofTokens_eq_ok_iff laws]

theorem ofTokens_eq_error_iff_wrong (laws : L.Reads) :
    ofTokens L tokens = .error fault ↔
      (∃ wrong before behind, fault = .tokens wrong ∧ tokens = before ++ behind ∧
        (Header.Wrong L before behind wrong ∨ Header.WrongPath L before behind wrong)) ∨
      ∃ wrong header, fault = .table wrong ∧ Header.Written L tokens header ∧
        Table.ofText L header.body = .error wrong := by
  simp only [ofTokens_eq_error_iff, Header.ofTokens_eq_ok_iff laws,
    Header.ofTokens_eq_error_iff laws, exists_and_left]

/-- In a language that reads paths as `Language.Reads` says: a module is declared by a header and a table
that is accepted, and by nothing else. Otherwise the first place where the tokens are no longer those of
a header decides, and only if there is none the table does; two tokens tell what is wrong there, whatever
follows them, unless it is the path that is wrong. Where a clause may start any key but `terminal` is
wrong, and nowhere but in a path another word is taken before an equals sign. -/
theorem ofTokens_exact (laws : L.Reads) (tokens : List Token) :
    (∀ m, ofTokens L tokens = .ok m ↔
      ∃ header declarations, Header.Written L tokens header ∧
        Table.ofText L header.body = .ok declarations ∧
        m = ⟨header.name, header.terminal.getD (L.plain defaultTerminal), declarations⟩) ∧
    (∀ fault, ofTokens L tokens = .error fault ↔
      (∃ wrong before behind, fault = .tokens wrong ∧ tokens = before ++ behind ∧
        Header.Begins L before ∧
        ((Header.Wrong L before behind wrong ∧ ∀ other, other.take 2 = behind.take 2 →
            ofTokens L (before ++ other) = .error (.tokens wrong)) ∨
          Header.WrongPath L before behind wrong)) ∨
      ∃ wrong header, fault = .table wrong ∧ Header.Written L tokens header ∧
        Table.ofText L header.body = .error wrong) ∧
    ∀ before w joined behind, tokens = before ++ .word w :: .mark '=' joined :: behind →
      w ≠ Header.terminalKey →
        ((∃ wrong, ofTokens L tokens = .error (.tokens wrong)) ∨
          Header.InPath L before [.word w, .mark '=' joined] behind) ∧
        ∀ name, Header.Named L before name → L.isIdentifier w = true →
          ofTokens L tokens = .error (.tokens .key) := by
  refine ⟨fun m => ofTokens_eq_ok_iff_written laws, fun fault => ?_, ?_⟩
  · rw [ofTokens_eq_error_iff_wrong laws]
    constructor
    · rintro (⟨wrong, before, behind, rfl, rfl, found | found⟩ | refused)
      · exact .inl ⟨wrong, before, behind, rfl, rfl, found.begins laws, .inl ⟨found, fun other same =>
          (ofTokens_eq_error_iff_wrong laws).2
            (.inl ⟨_, before, other, rfl, rfl, .inl (found.of_take_eq same)⟩)⟩⟩
      · exact .inl ⟨wrong, before, behind, rfl, rfl, found.begins laws, .inr found⟩
      · exact .inr refused
    · rintro (⟨wrong, before, behind, rfl, rfl, -, ⟨found, -⟩ | found⟩ | refused)
      · exact .inl ⟨wrong, before, behind, rfl, rfl, .inl found⟩
      · exact .inl ⟨wrong, before, behind, rfl, rfl, .inr found⟩
      · exact .inr refused
  · rintro before w joined behind rfl other
    constructor
    · rcases read : Header.ofTokens L (before ++ .word w :: .mark '=' joined :: behind) with
        wrong | header
      · exact .inl ⟨wrong, ofTokens_eq_error_iff.2 (.inl ⟨wrong, rfl, read⟩)⟩
      · exact .inr (((Header.ofTokens_eq_ok_iff laws).1 read).inPath rfl other)
    · intro name named identifier
      exact (ofTokens_eq_error_iff_wrong laws).2
        (.inl ⟨.key, before, _, rfl, rfl, .inl (.key named identifier other)⟩)

/-- The key `console` is wrong, whatever text is behind the table and whatever the table lacks. -/
theorem ofTokens_exact_console :
    let start := [.word Header.modKeyword, .word ⟨false, ['m']⟩, .mark ';' false]
    let path := [.mark '=' false, .word ⟨false, ['a']⟩, .mark ';' false]
    let named := start ++ .word Header.terminalKey :: path ++ [.text "x: y".toList]
    let unnamed := start ++ .word ⟨false, "console".toList⟩ :: (path ++ [.text ['x'], .text ['y']])
    (∃ m, ofTokens .words named = .ok m ∧ m.terminal = ⟨false, ⟨false, ['a']⟩, []⟩) ∧
      ofTokens .words unnamed = .error (.tokens .key) := by
  intro start path named unnamed
  have name : Header.Named .words start ⟨false, ['m']⟩ := ⟨by decide, false, rfl⟩
  constructor
  · let d : Declaration Path := ⟨['x'], ⟨false, ⟨false, ['y']⟩, []⟩⟩
    have accepted : Table.ofText .words "x: y".toList = .ok [d] :=
      eq_ok_of_toOption (by decide +kernel)
    have clause : Header.Clause .words (.word Header.terminalKey :: .mark '=' false ::
        [.word ⟨false, ['a']⟩] ++ [.mark ';' false]) (some ⟨false, ⟨false, ['a']⟩, []⟩) := .given rfl
    have written : Header.Written .words named
        ⟨⟨false, ['m']⟩, some ⟨false, ⟨false, ['a']⟩, []⟩, "x: y".toList⟩ :=
      ⟨start, .word Header.terminalKey :: path, rfl, name, clause⟩
    exact ⟨_, ((ofTokens_exact Language.words_reads named).1 _).2 ⟨_, _, written, accepted, rfl⟩, rfl⟩
  · exact ((ofTokens_exact Language.words_reads unnamed).2.2 start _ _ _ rfl (by decide)).2 _ name
      (by decide)

/-- Without a clause consoles are known under this path. -/
example : defaultTerminal.render = "::terminal_core".toList := by decide

end CommandModule

end SerialConsole
