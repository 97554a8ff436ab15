/-
Words are found again. A word that is written out, raw or not, is cut off the front of a text as it
is, if what follows does not go on with it and is no quote and no number sign
(`Token.lexeme?_render`); and a word is only ever found where it is written so
(`Token.spelled_of_ofText?`). The openings of literals are what could go wrong: a word must not be
taken for the letter that stands before the quote of a literal.
-/
import SerialConsole.Declaration.Lexeme
import SerialConsole.Proofs.Text.Identifier
import Mathlib.Data.List.TakeWhile

namespace SerialConsole

/-! ## Names -/

/-- A name: a character that starts an identifier, and characters that go on with it. -/
inductive Identifier.Spelled : Text → Prop
  | intro {c : Char} {more : Text} (start : isStart c = true)
    (continues : ∀ d ∈ more, isContinue d = true) : Spelled (c :: more)

theorem Identifier.Spelled.ne_nil {name : Text} (h : Spelled name) : name ≠ [] := by
  obtain ⟨-, -⟩ := h
  exact List.cons_ne_nil _ _

theorem Identifier.Spelled.continues {name : Text} (h : Spelled name) :
    ∀ c ∈ name, isContinue c = true := by
  obtain ⟨start, continues⟩ := h
  exact List.forall_mem_cons.2 ⟨isContinue_of_isStart start, continues⟩

/-- The word can be written: it has a name, and a raw one has none of those that cannot be raw. -/
structure Word.Spelled (w : Word) : Prop where
  name : Identifier.Spelled w.name
  raw : w.raw = true → Token.neverRaw.contains w.name = false

/-- Written out, a word starts as an identifier does, even if it is raw. -/
theorem Word.Spelled.render_start {w : Word} (h : w.Spelled) :
    ∃ c more, w.render = c :: more ∧ Identifier.isStart c = true := by
  obtain ⟨raw, name⟩ := w
  cases raw with
  | true => exact ⟨'r', '#' :: name, rfl, by decide⟩
  | false =>
    obtain ⟨start, -⟩ := h.name
    exact ⟨_, _, rfl, start⟩

/-- There is no quote and no number sign at the front. -/
def Literal.Unquoted (t : Text) : Prop := ∀ c ∈ t.head?, c ≠ '"' ∧ c ≠ '\'' ∧ c ≠ '#'

/-- A word ends where the text begins: the text does not go on with it, and the word is not taken for
the opening of a literal. -/
structure Word.Ends (t : Text) : Prop where
  stops : ∀ c ∈ t.head?, Identifier.isContinue c = false
  unquoted : Literal.Unquoted t

namespace Literal

variable {c : Char} {name rest t : Text}

/-- A name is found up to a character that cannot go on with it. -/
theorem name?_append (spelled : Identifier.Spelled name)
    (ends : ∀ c ∈ rest.head?, Identifier.isContinue c = false) :
    name? (name ++ rest) = some name := by
  obtain ⟨start, continues⟩ := spelled
  have behind : rest.takeWhile Identifier.isContinue = [] := by
    cases rest with
    | nil => rfl
    | cons d rest => exact List.takeWhile_cons_of_neg (by simp [ends d rfl])
  rw [List.cons_append, name?, if_pos start, List.takeWhile_append_of_pos continues, behind,
    List.append_nil]

theorem spelled_of_name? (h : name? t = some name) : Identifier.Spelled name := by
  cases t with
  | nil => cases h
  | cons c t =>
    rw [name?] at h
    split at h
    · next start =>
      cases h
      exact .intro start fun _ hd => List.mem_takeWhile_imp hd
    · cases h

/-! ## What opens no literal -/

theorem Unquoted.append (continues : ∀ c ∈ name, Identifier.isContinue c = true)
    (ends : Unquoted rest) : Unquoted (name ++ rest) := by
  cases name with
  | nil => exact ends
  | cons d name =>
    intro c hc
    obtain rfl : d = c := Option.some.inj hc
    have here := continues d (List.mem_cons_self ..)
    exact ⟨Identifier.ne_of_isContinue here (by decide),
      Identifier.ne_of_isContinue here (by decide), Identifier.ne_of_isContinue here (by decide)⟩

theorem raw?_of_unquoted {q : Quoting} (h : Unquoted t) : raw? q t = none := by
  cases t with
  | nil => rfl
  | cons c t =>
    obtain ⟨quote, -, sign⟩ := h c rfl
    have signs : (c :: t).takeWhile (· = '#') = [] :=
      List.takeWhile_cons_of_neg (by simpa using sign)
    rw [raw?, signs]
    simp only [List.length_nil, List.drop_zero]
    split
    · next same => cases same; exact absurd rfl quote
    · rfl

/-- A number sign and a word open no raw text. -/
theorem raw?_of_sign {q : Quoting} (start : Identifier.isStart c = true) (t : Text) :
    raw? q ('#' :: c :: t) = none := by
  have here := Identifier.isContinue_of_isStart start
  have quote : c ≠ '"' := Identifier.ne_of_isContinue here (by decide)
  have sign : c ≠ '#' := Identifier.ne_of_isContinue here (by decide)
  have one : ('#' :: c :: t).takeWhile (· = '#') = ['#'] := by simp [sign]
  rw [raw?, one]
  simp only [List.length_cons, List.length_nil, Nat.zero_add, List.drop_succ_cons, List.drop_zero]
  split
  · next same => cases same; exact absurd rfl quote
  · rfl

/-- Numbers start with a digit. -/
theorem number?_of_not_isDigit (digit : c.isDigit = false) (t : Text) :
    number? (c :: t) = none := by
  have zero : c ≠ '0' := by
    rintro rfl
    cases digit
  have decimal : decimal? (c :: t) = none := by
    simp [decimal?, digit]
  have small : (hexDigit? c).any (· < 10) = false := by
    rw [hexDigit?, digit, if_neg Bool.false_ne_true]
    split
    · simp
    · split
      · simp
      · rfl
  have integer : integer? (c :: t) = none := by
    have base : integer? (c :: t) = digits? 10 (c :: t) := by
      unfold integer?
      split
      · next same => cases same; exact absurd rfl zero
      · next same => cases same; exact absurd rfl zero
      · next same => cases same; exact absurd rfl zero
      · rfl
    rw [base, digits?]
    by_cases low : c = '_'
    · simp [low]
    · have digits : (c :: t).takeWhile
          (fun c => c == '_' || c.isDigit || (hexDigit? c).any (· < 10)) = [] :=
        List.takeWhile_cons_of_neg (by simp [low, digit, small])
      simp [digits]
  rw [number?, decimal, integer]
  rfl

end Literal

/-! ## Lexemes at the front -/

namespace Token

open Literal (Unquoted)

variable {c : Char} {t rest : Text} {w : Word}

theorem unsuffixed?_of_unquoted (start : Identifier.isStart c = true) (h : Unquoted t)
    (behind : ∀ u, t = 'r' :: u → Unquoted u) : unsuffixed? (c :: t) = none := by
  have here := Identifier.isContinue_of_isStart start
  have double : c ≠ '"' := Identifier.ne_of_isContinue here (by decide)
  have single : c ≠ '\'' := Identifier.ne_of_isContinue here (by decide)
  unfold unsuffixed?
  split
  · next same => cases same; exact absurd rfl double
  · next same => cases same; rw [Literal.raw?_of_unquoted h]; rfl
  · next same => cases same; exact absurd rfl (h _ rfl).1
  · next same => cases same; rw [Literal.raw?_of_unquoted (behind _ rfl)]; rfl
  · next same => cases same; exact absurd rfl (h _ rfl).2.1
  · next same => cases same; exact absurd rfl (h _ rfl).1
  · next same => cases same; rw [Literal.raw?_of_unquoted (behind _ rfl)]; rfl
  · next same => cases same; exact absurd rfl single
  · rfl

theorem startsMark_of_isStart (start : Identifier.isStart c = true) (t : Text) :
    startsMark (c :: t) = false := by
  unfold startsMark
  split
  · rfl
  · rfl
  · rfl
  · next same => cases same; exact Identifier.not_mark_of_isStart start

/-- No literal is opened where of each opening some character is not there. -/
theorem not_opening
    (h : ∀ o ∈ literalOpenings, ∃ (i : Nat) (d : Char), o[i]? = some d ∧ t[i]? ≠ some d) :
    literalOpenings.any (·.isPrefixOf t) = false := by
  rw [List.any_eq_false]
  intro o ho begins
  obtain ⟨i, d, there, missing⟩ := h o ho
  obtain ⟨rest, rfl⟩ := List.isPrefixOf_iff_prefix.1 begins
  obtain ⟨short, -⟩ := List.getElem?_eq_some_iff.1 there
  rw [List.getElem?_append_left short] at missing
  exact missing there

theorem not_opening_of_unquoted (h : Unquoted t) (behind : ∀ u, t = 'r' :: u → Unquoted u) :
    literalOpenings.any (·.isPrefixOf (c :: t)) = false := by
  have openings : ∀ o ∈ literalOpenings, o[1]?.any ['"', '\'', '#'].contains = true ∨
      o[1]? = some 'r' ∧ o[2]?.any ['"', '\'', '#'].contains = true := by decide
  have unquoted {u : Text} (h : Unquoted u) {d : Char} (hd : ['"', '\'', '#'].contains d = true) :
      u[0]? ≠ some d := by
    intro there
    have := h d (List.head?_eq_getElem? ▸ there)
    simp_all
  refine not_opening fun o ho => ?_
  rcases openings o ho with here | ⟨r, later⟩
  · obtain ⟨d, there, hd⟩ := (Option.any_eq_true _ _).1 here
    exact ⟨1, d, there, unquoted h hd⟩
  · by_cases same : t[0]? = some 'r'
    · obtain ⟨u, rfl⟩ := List.head?_eq_some_iff.1 (List.head?_eq_getElem? ▸ same)
      obtain ⟨d, there, hd⟩ := (Option.any_eq_true _ _).1 later
      exact ⟨2, d, there, unquoted (behind u rfl) hd⟩
    · exact ⟨1, 'r', r, same⟩

theorem not_opening_of_sign (start : Identifier.isStart c = true) (t : Text) :
    literalOpenings.any (·.isPrefixOf ('r' :: '#' :: c :: t)) = false := by
  have here := Identifier.isContinue_of_isStart start
  have openings : ∀ o ∈ literalOpenings, o[0]?.any (· != 'r') = true ∨ o[1]? = some '"' ∨
      o[2]?.any ['"', '#'].contains = true := by decide
  refine not_opening fun o ho => ?_
  rcases openings o ho with first | second | third
  · obtain ⟨d, there, other⟩ := (Option.any_eq_true _ _).1 first
    refine ⟨0, d, there, ?_⟩
    rintro ⟨⟩
    cases other
  · exact ⟨1, '"', second, fun same => absurd (Option.some.inj same) (by decide)⟩
  · obtain ⟨d, there, hd⟩ := (Option.any_eq_true _ _).1 third
    refine ⟨2, d, there, ?_⟩
    rintro ⟨⟩
    revert hd
    simpa using ⟨Identifier.ne_of_isContinue here (by decide),
      Identifier.ne_of_isContinue here (by decide)⟩

/-- What starts as an identifier and opens no literal is a word. -/
theorem lexeme?_of_isStart (start : Identifier.isStart c = true)
    (literal : unsuffixed? (c :: t) = none)
    (unopened : literalOpenings.any (·.isPrefixOf (c :: t)) = false) :
    lexeme? (c :: t) = (word? (c :: t)).map fun (token, n) => ([token], n) := by
  have here := Identifier.isContinue_of_isStart start
  have slash : c ≠ '/' := Identifier.ne_of_isContinue here (by decide)
  have round : c ≠ '(' := Identifier.ne_of_isContinue here (by decide)
  have bracket : bracket? c = none := by
    unfold bracket?
    split
    · exact absurd here (by decide)
    · exact absurd here (by decide)
    · exact absurd here (by decide)
    · exact absurd here (by decide)
    · exact absurd here (by decide)
    · exact absurd here (by decide)
    · rfl
  have placeless : placeholder.isPrefixOf (c :: t) = false := by
    have opens : placeholder = '(' :: "/*ERROR*/)".toList := rfl
    rw [opens, List.isPrefixOf_cons_cons, beq_false_of_ne round.symm, Bool.false_and]
  have leaf : leaf? (c :: t) = word? (c :: t) := by
    rw [leaf?, literal?, literal,
      Literal.number?_of_not_isDigit (Identifier.not_isDigit_of_isStart start),
      mark?, startsMark_of_isStart start, unopened]
    rfl
  unfold lexeme?
  split
  · next same => cases same
  · next same => cases same; exact absurd rfl slash
  · next same => cases same; exact absurd rfl slash
  · next same =>
    cases same
    rw [Identifier.not_isBlank_of_isContinue here, placeless, bracket, leaf]
    rfl

/-! ## Words -/

theorem word?_render (spelled : w.Spelled) (ends : Word.Ends rest) :
    word? (w.render ++ rest) = some (.word w, w.render.length) := by
  obtain ⟨raw, name⟩ := w
  have found : Literal.name? (name ++ rest) = some name :=
    Literal.name?_append spelled.name ends.stops
  cases raw with
  | true =>
    have permitted : Token.neverRaw.contains name = false := spelled.raw rfl
    show (Literal.name? (name ++ rest)).bind _ = _
    rw [found, Option.bind_some, permitted]
    rfl
  | false =>
    show word? (name ++ rest) = some (.word ⟨false, name⟩, name.length)
    unfold word?
    split
    -- the number sign would have to stand in the name or behind it
    · next t same =>
      exfalso
      obtain ⟨-, continues⟩ := spelled.name
      have sign := congrArg List.tail same
      have unquoted := ends.unquoted.append continues
      exact (unquoted '#' (congrArg List.head? sign)).2.2 rfl
    · rw [found]
      rfl

/-- A word is cut off the front as it is written. -/
theorem lexeme?_render (spelled : w.Spelled) (ends : Word.Ends rest) :
    lexeme? (w.render ++ rest) = some ([.word w], w.render.length) := by
  have word := word?_render spelled ends
  obtain ⟨raw, name⟩ := w
  obtain ⟨c, more, same, start, continues⟩ : ∃ c more, name = c :: more ∧
      Identifier.isStart c = true ∧ ∀ d ∈ more, Identifier.isContinue d = true := by
    obtain ⟨start, continues⟩ := spelled.name
    exact ⟨_, _, rfl, start, continues⟩
  subst same
  cases raw with
  | true =>
    have literal : unsuffixed? ('r' :: '#' :: c :: (more ++ rest)) = none := by
      rw [unsuffixed?, Literal.raw?_of_sign start]
      rfl
    have := lexeme?_of_isStart (by decide) literal (not_opening_of_sign start _)
    exact this.trans (congrArg (Option.map _) word)
  | false =>
    have unquoted {name : Text} (continues : ∀ d ∈ name, Identifier.isContinue d = true) :
        Unquoted (name ++ rest) := ends.unquoted.append continues
    have behind : ∀ u, more ++ rest = 'r' :: u → Unquoted u := by
      intro u same
      cases more with
      | nil =>
        subst same
        exact absurd (ends.stops 'r' rfl) (by decide)
      | cons d more =>
        cases same
        exact unquoted fun d hd => continues d (List.mem_cons_of_mem _ hd)
    have := lexeme?_of_isStart start (unsuffixed?_of_unquoted start (unquoted continues) behind)
      (not_opening_of_unquoted (unquoted continues) behind)
    exact this.trans (congrArg (Option.map _) word)

/-- A colon is a mark of its own. -/
theorem lexeme?_colon (t : Text) :
    lexeme? (':' :: t) = some ([.mark ':' (startsMark t)], 1) := by
  have leaf : leaf? (':' :: t) = some (.mark ':' (startsMark t), 1) := by
    rw [leaf?, literal?, Literal.number?_of_not_isDigit rfl]
    rfl
  have other : lexeme? (':' :: t) = (leaf? (':' :: t)).map fun (token, n) => ([token], n) := rfl
  rw [other, leaf]
  rfl

/-- What is cut off the front is followed by the tokens of the rest. -/
theorem lexemes?_append {s : Text} {tokens : List Token}
    (h : lexeme? (s ++ rest) = some (tokens, s.length)) (nonempty : s ≠ []) :
    lexemes? (s ++ rest) = (lexemes? rest).map (tokens ++ ·) := by
  obtain ⟨c, s, rfl⟩ := List.exists_cons_of_ne_nil nonempty
  rw [List.cons_append] at h ⊢
  rw [lexemes?, h]
  simp

theorem lexemes?_word (spelled : w.Spelled) (ends : Word.Ends rest) :
    lexemes? (w.render ++ rest) = (lexemes? rest).map (.word w :: ·) := by
  obtain ⟨c, more, front, -⟩ := spelled.render_start
  exact lexemes?_append (lexeme?_render spelled ends) (by simp [front])

theorem startsMark_render (spelled : w.Spelled) (rest : Text) :
    startsMark (w.render ++ rest) = false := by
  obtain ⟨c, more, front, start⟩ := spelled.render_start
  rw [front]
  exact startsMark_of_isStart start _

/-- Two colons are a double colon, which is joined to the next token only if that is a mark. -/
theorem lexemes?_colons (unmarked : startsMark rest = false) :
    lexemes? (':' :: ':' :: rest) =
      (lexemes? rest).map (.mark ':' true :: .mark ':' false :: ·) := by
  have colon (t : Text) : lexemes? (':' :: t) = (lexemes? t).map (.mark ':' (startsMark t) :: ·) :=
    lexemes?_append (lexeme?_colon t) (List.cons_ne_nil ':' [])
  rw [colon, colon, unmarked, Option.map_map]
  rfl

/-! ## Where words come from -/

theorem spelled_of_word? {token : Token} {n : Nat} (h : word? t = some (token, n)) :
    ∃ w : Word, token = .word w ∧ w.Spelled := by
  unfold word? at h
  split at h
  · obtain ⟨name, found, here⟩ := Option.bind_eq_some_iff.1 h
    split at here
    · cases here
    · next permitted =>
      cases here
      exact ⟨_, rfl, Literal.spelled_of_name? found, fun _ => by simpa using permitted⟩
  · obtain ⟨name, found, same⟩ := Option.map_eq_some_iff.1 h
    cases same
    exact ⟨_, rfl, Literal.spelled_of_name? found, fun raw => by cases raw⟩

theorem not_word_of_unsuffixed? {token : Token} {n : Nat}
    (h : unsuffixed? t = some (token, n)) : token ≠ .word w := by
  have mapped {α : Type} {o : Option α} {f : α → Token × Nat} (other : ∀ a, (f a).1 ≠ .word w)
      (h : o.map f = some (token, n)) : token ≠ .word w := by
    obtain ⟨a, -, same⟩ := Option.map_eq_some_iff.1 h
    rw [← show (f a).1 = token from congrArg Prod.fst same]
    exact other a
  unfold unsuffixed? at h
  split at h
  all_goals first
    | exact mapped (fun _ => Token.noConfusion) h
    | cases h

theorem not_word_of_literal? {token : Token} {n : Nat} (h : literal? t = some (token, n)) :
    token ≠ .word w := by
  unfold literal? at h
  split at h
  · next found =>
    cases h
    exact not_word_of_unsuffixed? found
  · obtain ⟨_, -, same⟩ := Option.map_eq_some_iff.1 h
    cases same
    exact Token.noConfusion

theorem not_word_of_mark? {token : Token} (h : mark? t = some token) : token ≠ .word w := by
  unfold mark? at h
  split at h
  · cases h
  · split at h
    · cases h
    · split at h
      · split at h
        · cases h
          exact Token.noConfusion
        · cases h
      · cases h
        exact Token.noConfusion

theorem not_word_of_bracket? {token : Token} (h : bracket? c = some token) : token ≠ .word w := by
  unfold bracket? at h
  split at h <;> cases h <;> exact Token.noConfusion

/-- Comments hold no words, even those that document. -/
theorem not_word_of_documentation {inner sound : Bool} {length n : Nat} {tokens : List Token}
    (h : (if sound then some (documentation inner, length) else none) = some (tokens, n)) :
    Token.word w ∉ tokens := by
  split at h
  · cases h
    cases inner <;> simp [documentation]
  · cases h

theorem not_word_of_lineComment? {tokens : List Token} {n : Nat}
    (h : lineComment? t = some (tokens, n)) : Token.word w ∉ tokens := by
  unfold lineComment? at h
  dsimp only at h
  split at h
  · exact not_word_of_documentation h
  · cases h
    exact List.not_mem_nil
  · exact not_word_of_documentation h
  · cases h
    exact List.not_mem_nil

theorem not_word_of_blockComment? {tokens : List Token} {n : Nat}
    (h : blockComment? t = some (tokens, n)) : Token.word w ∉ tokens := by
  unfold blockComment? at h
  obtain ⟨length, -, h⟩ := Option.bind_eq_some_iff.1 h
  dsimp only at h
  split at h
  · exact not_word_of_documentation h
  · cases h
    exact List.not_mem_nil
  · cases h
    exact List.not_mem_nil
  · exact not_word_of_documentation h
  · cases h
    exact List.not_mem_nil

theorem spelled_of_leaf? {n : Nat} (h : leaf? t = some (.word w, n)) : w.Spelled := by
  rw [leaf?, Option.or_eq_some_iff, Option.or_eq_some_iff] at h
  rcases h with literal | ⟨-, mark | ⟨-, word⟩⟩
  · exact absurd rfl (not_word_of_literal? literal)
  · obtain ⟨token, found, same⟩ := Option.map_eq_some_iff.1 mark
    cases same
    exact absurd rfl (not_word_of_mark? found)
  · split at word
    · cases word
    · obtain ⟨w', same, spelled⟩ := spelled_of_word? word
      cases same
      exact spelled

theorem spelled_of_lexeme? {tokens : List Token} {n : Nat} (h : lexeme? t = some (tokens, n))
    (hw : .word w ∈ tokens) : w.Spelled := by
  unfold lexeme? at h
  split at h
  · cases h
  · exact absurd hw (not_word_of_lineComment? h)
  · exact absurd hw (not_word_of_blockComment? h)
  · split at h
    · cases h
      cases hw
    · split at h
      · cases h
        cases List.mem_singleton.1 hw
      · split at h
        · next found =>
          cases h
          exact absurd (List.mem_singleton.1 hw).symm (not_word_of_bracket? found)
        · obtain ⟨⟨token, m⟩, found, same⟩ := Option.map_eq_some_iff.1 h
          cases same
          cases List.mem_singleton.1 hw
          exact spelled_of_leaf? found

theorem spelled_of_lexemes? {tokens : List Token} (h : lexemes? t = some tokens)
    (hw : .word w ∈ tokens) : w.Spelled := by
  induction t using lexemes?.induct generalizing tokens with
  | case1 =>
    rw [lexemes?] at h
    cases h
    cases hw
  | case2 c t missing =>
    rw [lexemes?, missing] at h
    cases h
  | case3 c t front n found ih =>
    rw [lexemes?, found] at h
    obtain ⟨later, read, rfl⟩ := Option.map_eq_some_iff.1 h
    rcases List.mem_append.1 hw with here | behind
    · exact spelled_of_lexeme? found here
    · exact ih read behind

/-- The words of a text are written in it. -/
theorem spelled_of_ofText? {tokens : List Token} (h : ofText? t = some tokens)
    (hw : .word w ∈ tokens) : w.Spelled :=
  spelled_of_lexemes? (Option.filter_eq_some_iff.1 h).1 hw

end Token

end SerialConsole
