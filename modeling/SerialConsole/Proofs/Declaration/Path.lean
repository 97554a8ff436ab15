/-
The language whose paths are words. Tokens are read as a path up to those that add no words to it
(`Path.read_eq_ok_iff`). A path that a text was read as is written without blanks and read again: its
words are found where they are written, and a double colon is never joined to what follows
(`Path.ofText_render`). So this language is what headers and tables take a language to be
(`Language.words_reads`, `Language.words_prints`).
-/
import SerialConsole.Declaration.Path
import SerialConsole.Proofs.Declaration.Lexing

namespace SerialConsole

/-! ## Steps that may fail -/

theorem bind_eq_ok_iff {ε α β : Type} {x : Except ε α} {f : α → Except ε β} {b : β} :
    x >>= f = .ok b ↔ ∃ a, x = .ok a ∧ f a = .ok b := by
  cases x with
  | error e => simp [bind, Except.bind]
  | ok a => simp [bind, Except.bind]

theorem mapError_eq_ok_iff {ε ε' α : Type} {x : Except ε α} {f : ε → ε'} {a : α} :
    x.mapError f = .ok a ↔ x = .ok a := by
  cases x with
  | error e => simp [Except.mapError]
  | ok b => simp [Except.mapError]

theorem eq_ok_of_toOption {ε α : Type} {x : Except ε α} {a : α} (h : x.toOption = some a) :
    x = .ok a := by
  cases x with
  | error e => cases h
  | ok b => exact congrArg Except.ok (Option.some.inj h)

/-! ## Words at the front -/

namespace Token

variable (admits : Word → Bool) {tokens rest : List Token} {w : Word}

/-- A word at the front that is admitted: an identifier, or a segment of a path. -/
def readWord : List Token → Except TokenFault (Word × List Token)
  | [] => .error (.ended .identifier)
  | .word w :: tokens => if admits w then .ok (w, tokens) else .error (.reserved w.name)
  | _ :: _ => .error (.wanted .identifier)

theorem readWord_eq_ok_iff :
    readWord admits tokens = .ok (w, rest) ↔ tokens = .word w :: rest ∧ admits w = true := by
  unfold readWord
  split
  · simp
  · next v tokens =>
    by_cases admitted : admits v = true
    · rw [if_pos admitted]
      constructor
      · rintro ⟨⟩
        exact ⟨rfl, admitted⟩
      · rintro ⟨⟨⟩, -⟩
        rfl
    · rw [if_neg admitted]
      constructor
      · rintro ⟨⟩
      · rintro ⟨⟨⟩, admitted'⟩
        exact absurd admitted' admitted
  · next token tokens unworded =>
    constructor
    · rintro ⟨⟩
    · rintro ⟨⟨⟩, -⟩
      exact absurd rfl (unworded w)

end Token

namespace Path

variable {tokens rest : List Token} {added : List Word} {p : Path} {rooted : Bool} {t : Text}

/-! ## The tokens of a path -/

/-- Tokens of words that double colons add. -/
inductive Adds : List Token → List Word → Prop
  | nil : Adds [] []
  | cons {joined : Bool} {w : Word} {tokens : List Token} {words : List Word} :
    w.isSegment = true → Adds tokens words →
      Adds (.mark ':' true :: .mark ':' joined :: .word w :: tokens) (w :: words)

/-- Tokens that are a path. -/
inductive Spells : List Token → Path → Prop
  | plain {head : Word} {tokens : List Token} {tail : List Word} :
    head.isSegment = true → Adds tokens tail → Spells (.word head :: tokens) ⟨false, head, tail⟩
  | rooted {joined : Bool} {head : Word} {tokens : List Token} {tail : List Word} :
    head.isSegment = true → Adds tokens tail →
      Spells (.mark ':' true :: .mark ':' joined :: .word head :: tokens) ⟨true, head, tail⟩

/-- Tokens with a double colon at the front. -/
def Roots (tokens : List Token) : Prop :=
  ∃ joined more, tokens = .mark ':' true :: .mark ':' joined :: more

/-- Tokens before which a path ends: those with no double colon at the front, or with one before a
round bracket. -/
def Stops (tokens : List Token) : Prop :=
  ∀ joined more, tokens = .mark ':' true :: .mark ':' joined :: more → more.head? = some (.opening .round)

theorem Adds.mem (adds : Adds tokens added) : ∀ w ∈ added, .word w ∈ tokens := by
  induction adds with
  | nil => exact List.forall_mem_nil _
  | cons _ _ ih => exact List.forall_mem_cons.2 ⟨by simp, fun w hw => by simp [ih w hw]⟩

theorem Spells.mem (spells : Spells tokens p) : ∀ w ∈ p.words, .word w ∈ tokens := by
  cases spells with
  | plain _ adds | rooted _ adds =>
    exact List.forall_mem_cons.2 ⟨by simp, fun w hw => by simp [adds.mem w hw]⟩

/-! ## Reading it -/

theorem segment_eq_ok_iff {w : Word} :
    segment tokens = .ok (w, rest) ↔ tokens = .word w :: rest ∧ w.isSegment = true :=
  Token.readWord_eq_ok_iff Word.isSegment

theorem more_eq_nil_iff : more tokens = .ok ([], tokens) ↔ Stops tokens := by
  constructor
  · rintro h joined behind rfl
    rcases behind with _ | ⟨token, behind⟩
    · cases h
    · by_cases opened : token = .opening .round
      · rw [List.head?_cons, opened]
      · by_cases worded : ∃ w, token = .word w
        · obtain ⟨w, rfl⟩ := worded
          rw [more] at h
          split at h
          · rcases later : more behind with fault | ⟨words, left⟩
            · rw [later] at h
              cases h
            · rw [later] at h
              cases h
          · cases h
        · rw [more] at h
          · cases h
          · exact opened
          · exact fun w same => worded ⟨w, same⟩
  · intro stops
    fun_cases more tokens with
    | case1 => rfl
    | case2 | case3 | case4 => cases stops _ _ rfl
    | case5 joined token tokens opened => exact absurd (Option.some.inj (stops _ _ rfl)) opened
    | case6 => rfl

/-- Words are added up to tokens that add none. -/
theorem more_eq_ok_iff :
    more tokens = .ok (added, rest) ↔ ∃ front, tokens = front ++ rest ∧ Adds front added ∧ Stops rest := by
  constructor
  · intro h
    -- A step is taken only where a word is added (`case2`); the other cases stop, or are no reading.
    induction tokens using more.induct generalizing added with
    | case1 joined tokens =>
      cases h
      exact ⟨[], rfl, .nil, more_eq_nil_iff.1 rfl⟩
    | case2 joined w tokens permitted ih =>
      rw [more, if_pos permitted] at h
      rcases later : more tokens with fault | ⟨words, left⟩
      · rw [later] at h
        cases h
      · rw [later] at h
        cases h
        obtain ⟨front, rfl, adds, stops⟩ := ih later
        exact ⟨_, rfl, .cons permitted adds, stops⟩
    | case3 joined w tokens refused =>
      rw [more, if_neg refused] at h
      cases h
    | case4 =>
      rw [more] at h
      cases h
    | case5 joined token tokens unopened unworded =>
      rw [more] at h
      · cases h
      · exact unopened
      · exact unworded
    | case6 tokens h1 h2 h3 h4 =>
      have nothing : more tokens = .ok ([], tokens) := by rw [more] <;> assumption
      rw [nothing] at h
      cases h
      exact ⟨[], rfl, .nil, more_eq_nil_iff.1 nothing⟩
  · rintro ⟨front, rfl, adds, stops⟩
    induction adds with
    | nil => exact more_eq_nil_iff.2 stops
    | cons permitted _ ih =>
      rw [List.cons_append, List.cons_append, List.cons_append, more, if_pos permitted, ih]
      rfl

/-- A path behind the double colon at its front, or without one. -/
def readFrom (rooted : Bool) (tokens : List Token) : Except TokenFault (Path × List Token) := do
  let (head, tokens) ← segment tokens
  let (tail, tokens) ← more tokens
  return (⟨rooted, head, tail⟩, tokens)

theorem read_rooted (joined : Bool) (tokens : List Token) :
    read (.mark ':' true :: .mark ':' joined :: tokens) = readFrom true tokens := rfl

theorem read_plain (h : ¬ Roots tokens) : read tokens = readFrom false tokens := by
  unfold read
  split
  next rooted left start =>
  split at start
  · exact absurd ⟨_, _, rfl⟩ h
  · cases start
    rfl

theorem not_roots_word (head : Word) (tokens : List Token) : ¬ Roots (.word head :: tokens) := nofun

theorem readFrom_eq_ok_iff :
    readFrom rooted tokens = .ok (p, rest) ↔
      ∃ head tail front, tokens = .word head :: (front ++ rest) ∧ head.isSegment = true ∧
        Adds front tail ∧ Stops rest ∧ p = ⟨rooted, head, tail⟩ := by
  constructor
  · intro h
    obtain ⟨⟨head, later⟩, first, onward⟩ := bind_eq_ok_iff.1 h
    obtain ⟨⟨tail, behind⟩, added, whole⟩ := bind_eq_ok_iff.1 onward
    cases whole
    obtain ⟨rfl, permitted⟩ := segment_eq_ok_iff.1 first
    obtain ⟨front, rfl, adds, stops⟩ := more_eq_ok_iff.1 added
    exact ⟨head, tail, front, rfl, permitted, adds, stops, rfl⟩
  · rintro ⟨head, tail, front, rfl, permitted, adds, stops, rfl⟩
    have added := more_eq_ok_iff.2 ⟨front, rfl, adds, stops⟩
    exact bind_eq_ok_iff.2
      ⟨_, segment_eq_ok_iff.2 ⟨rfl, permitted⟩, bind_eq_ok_iff.2 ⟨_, added, rfl⟩⟩

/-- A path goes up to tokens that add no words to it. -/
theorem read_eq_ok_iff :
    read tokens = .ok (p, rest) ↔ ∃ front, tokens = front ++ rest ∧ Spells front p ∧ Stops rest := by
  constructor
  · intro h
    by_cases roots : Roots tokens
    · obtain ⟨joined, left, rfl⟩ := roots
      rw [read_rooted] at h
      obtain ⟨head, tail, front, rfl, permitted, adds, stops, rfl⟩ := readFrom_eq_ok_iff.1 h
      exact ⟨_, rfl, .rooted permitted adds, stops⟩
    · rw [read_plain roots] at h
      obtain ⟨head, tail, front, rfl, permitted, adds, stops, rfl⟩ := readFrom_eq_ok_iff.1 h
      exact ⟨_, rfl, .plain permitted adds, stops⟩
  · rintro ⟨front, rfl, spells, stops⟩
    cases spells with
    | plain permitted adds =>
      rw [List.cons_append, read_plain (not_roots_word _ _)]
      exact readFrom_eq_ok_iff.2 ⟨_, _, _, rfl, permitted, adds, stops, rfl⟩
    | rooted permitted adds =>
      rw [List.cons_append, List.cons_append, read_rooted]
      exact readFrom_eq_ok_iff.2 ⟨_, _, _, rfl, permitted, adds, stops, rfl⟩

/-- Tokens are read as a path to their end if and only if they are one. -/
theorem read_eq_whole_iff : read tokens = .ok (p, []) ↔ Spells tokens p := by
  rw [read_eq_ok_iff]
  constructor
  · rintro ⟨front, rfl, spells, -⟩
    rwa [List.append_nil]
  · intro spells
    exact ⟨tokens, (List.append_nil tokens).symm, spells, nofun⟩

theorem ofTokens_eq_ok_iff : ofTokens tokens = .ok p ↔ Spells tokens p := by
  rw [← read_eq_whole_iff]
  unfold ofTokens
  rcases read tokens with fault | ⟨q, _ | ⟨token, left⟩⟩
  · simp [bind, Except.bind]
  · simp [bind, Except.bind, pure, Except.pure]
  · simp [bind, Except.bind, throw, throwThe, MonadExceptOf.throw]

theorem ofText_eq_ok_iff :
    ofText t = .ok p ↔ ∃ tokens, Token.ofText? t = some tokens ∧ Spells tokens p := by
  unfold ofText
  rcases Token.ofText? t with _ | tokens
  · simp
  · simp [mapError_eq_ok_iff, ofTokens_eq_ok_iff]

/-! ## Written without blanks -/

/-- The words of the path can be written, and they may be its segments. -/
structure Sound (p : Path) : Prop where
  spelled : ∀ w ∈ p.words, w.Spelled
  segment : ∀ w ∈ p.words, w.isSegment = true

theorem Adds.segment (adds : Adds tokens added) : ∀ w ∈ added, w.isSegment = true := by
  induction adds with
  | nil => exact List.forall_mem_nil _
  | cons permitted _ ih => exact List.forall_mem_cons.2 ⟨permitted, ih⟩

theorem Spells.segment (spells : Spells tokens p) : ∀ w ∈ p.words, w.isSegment = true := by
  cases spells with
  | plain permitted adds | rooted permitted adds =>
    exact List.forall_mem_cons.2 ⟨permitted, adds.segment⟩

theorem sound_of_ofText (h : ofText t = .ok p) : p.Sound := by
  obtain ⟨tokens, found, spells⟩ := ofText_eq_ok_iff.1 h
  exact ⟨fun w hw => Token.spelled_of_ofText? found (spells.mem w hw), spells.segment⟩

/-- A double colon that is not joined to what follows. -/
def colons : List Token := [.mark ':' true, .mark ':' false]

/-- The tokens of words that double colons add. -/
def additional (words : List Word) : List Token := words.flatMap fun w => colons ++ [.word w]

/-- The path as tokens. -/
def toTokens (p : Path) : List Token :=
  (if p.rooted then colons else []) ++ .word p.head :: additional p.tail

theorem spells_toTokens (segment : ∀ w ∈ p.words, w.isSegment = true) : Spells p.toTokens p := by
  have adds {words : List Word} (segment : ∀ w ∈ words, w.isSegment = true) :
      Adds (additional words) words := by
    induction words with
    | nil => exact .nil
    | cons w words ih =>
      rw [List.forall_mem_cons] at segment
      exact .cons segment.1 (ih segment.2)
  obtain ⟨rooted, head, tail⟩ := p
  rw [words, List.forall_mem_cons] at segment
  cases rooted with
  | true => exact .rooted segment.1 (adds segment.2)
  | false => exact .plain segment.1 (adds segment.2)

/-- The text that words add to a path. -/
def written (words : List Word) : Text := words.flatMap fun w => ':' :: ':' :: w.render

theorem render_eq (p : Path) :
    p.render = (if p.rooted then "::".toList else []) ++ (p.head.render ++ written p.tail) := by
  have joined (w : Word) (words : List Word) :
      List.intercalate "::".toList ((w :: words).map Word.render) = w.render ++ written words := by
    induction words generalizing w with
    | nil => simp [written]
    | cons v words ih =>
      rw [List.map_cons, List.map_cons, List.intercalate_cons_cons, ← List.map_cons, ih]
      simp [written]
  rw [render, words, joined]

theorem ends_written (words : List Word) : Word.Ends (written words) := by
  cases words with
  | nil => exact ⟨nofun, nofun⟩
  | cons w words =>
    refine ⟨fun c hc => ?_, fun c hc => ?_⟩
    · cases hc
      decide +kernel
    · cases hc
      decide

theorem lexemes?_written (spelled : ∀ w ∈ added, w.Spelled) :
    Token.lexemes? (written added) = some (additional added) := by
  induction added with
  | nil => rw [written, List.flatMap_nil, Token.lexemes?]; rfl
  | cons w added ih =>
    rw [List.forall_mem_cons] at spelled
    have first : written (w :: added) = ':' :: ':' :: (w.render ++ written added) := rfl
    rw [first, Token.lexemes?_colons (Token.startsMark_render spelled.1 _),
      Token.lexemes?_word spelled.1 (ends_written added), ih spelled.2]
    rfl

theorem lexemes?_render (spelled : ∀ w ∈ p.words, w.Spelled) :
    Token.lexemes? p.render = some p.toTokens := by
  obtain ⟨rooted, head, tail⟩ := p
  rw [words, List.forall_mem_cons] at spelled
  have words := Token.lexemes?_word spelled.1 (ends_written tail)
  rw [lexemes?_written spelled.2] at words
  rw [render_eq]
  cases rooted with
  | true =>
    show Token.lexemes? (':' :: ':' :: (head.render ++ written tail)) = _
    rw [Token.lexemes?_colons (Token.startsMark_render spelled.1 _), words]
    rfl
  | false => exact words

theorem balanced_toTokens (p : Path) : Token.balanced [] p.toTokens = true := by
  have later (words : List Word) : Token.balanced [] (additional words) = true := by
    induction words with
    | nil => rfl
    | cons w words ih => exact ih
  obtain ⟨rooted, head, tail⟩ := p
  cases rooted with
  | true => exact later tail
  | false => exact later tail

/-- No mark of byte order is taken off a path. -/
theorem head?_render_ne (spelled : ∀ w ∈ p.words, w.Spelled) : p.render.head? ≠ some '\ufeff' := by
  obtain ⟨rooted, head, tail⟩ := p
  obtain ⟨c, more, front, start⟩ := (spelled head (List.mem_cons_self ..)).render_start
  rw [render_eq, front]
  cases rooted with
  | true => exact fun first => absurd (Option.some.inj first) (by decide)
  | false =>
    rintro ⟨⟩
    revert start
    decide +kernel

/-- A path without blanks is read as itself. -/
theorem ofText_render (h : p.Sound) : ofText p.render = .ok p := by
  refine ofText_eq_ok_iff.2 ⟨p.toTokens, ?_, spells_toTokens h.segment⟩
  unfold Token.ofText?
  rw [if_neg (head?_render_ne h.spelled)]
  show (Token.lexemes? p.render).filter (Token.balanced []) = _
  rw [lexemes?_render h.spelled]
  exact Option.filter_some_pos (balanced_toTokens p)

end Path

/-! ## The language -/

namespace Language

/-- A semicolon is no double colon, so a path ends before it. -/
theorem words_reads : words.Reads where
  front := by
    intro tokens rest p h
    obtain ⟨path, rfl, spells, -⟩ := Path.read_eq_ok_iff.1 (mapError_eq_ok_iff.1 h)
    exact ⟨path, rfl, mapError_eq_ok_iff.2 (Path.read_eq_whole_iff.2 spells)⟩
  closed := by
    intro path p h joined rest
    have spells := Path.read_eq_whole_iff.1 (mapError_eq_ok_iff.1 h)
    exact mapError_eq_ok_iff.2 (Path.read_eq_ok_iff.2 ⟨path, rfl, spells, nofun⟩)
  word := by
    intro w h
    have permitted : w.isSegment = true := Bool.or_eq_true .. ▸ Or.inl h
    exact ⟨⟨false, w, []⟩, mapError_eq_ok_iff.2 (Path.read_eq_whole_iff.2 (.plain permitted .nil))⟩
  terminal := by decide

theorem words_prints : words.Prints where
  words := by
    intro t p h w hw
    have spelled := (Path.sound_of_ofText (mapError_eq_ok_iff.1 h)).spelled w hw
    refine ⟨spelled.name.ne_nil, fun c hc => ?_⟩
    have inside := spelled.name.continues c hc
    have shows := Identifier.not_isBlank_of_isContinue inside
    simp only [Token.isBlank, Bool.or_eq_false_iff] at shows
    exact ⟨shows.1.1, Identifier.ne_of_isContinue inside (by decide)⟩
  render _ := rfl
  again h := mapError_eq_ok_iff.2 (Path.ofText_render (Path.sound_of_ofText (mapError_eq_ok_iff.1 h)))

end Language

end SerialConsole
