/-
Which tokens a command answers to. What is stored of its name is all that fits, and the command answers
to the tokens that begin with it and have no character behind it for which there would be room
(`answersTo_iff_begins`). Room is counted in bytes: a token and a name are the same if the longest
beginnings of theirs are for which there is room (`answersTo_iff_longestFitting`). Counting characters
comes to the same as long as the first characters, as many as the limit has bytes, fit in it. A wide
character pushes others out, and then texts are taken for the same that differ in their first characters
(`not_answersTo_iff_take_eq`).
-/
import SerialConsole.Command.Basic
import SerialConsole.Line.Basic
import SerialConsole.Proofs.Text.Clipping

namespace SerialConsole

namespace Text

/-- A text is cut behind a beginning that fits if nothing comes after it, or a character for which
there is no room left. -/
theorem clip_eq_iff_begins {t s : Text} {budget : Nat} (fits : size s ≤ budget) :
    clip t budget = s ↔
      s <+: t ∧ (t = s ∨ ∃ c more, t = s ++ c :: more ∧ budget < size s + c.utf8Size) := by
  constructor
  · rintro rfl
    obtain ⟨rest, whole⟩ := clip_isPrefix t budget
    refine ⟨clip_isPrefix t budget, ?_⟩
    cases rest with
    | nil =>
      rw [List.append_nil] at whole
      exact .inl whole.symm
    | cons c more => exact .inr ⟨c, more, whole.symm, lt_size_of_next whole⟩
  · rintro ⟨begins, ends⟩
    refine clip_eq_iff.2 ⟨begins, fits, fun u hu within => ?_⟩
    rcases ends with rfl | ⟨c, more, rfl, exceeds⟩
    · exact hu
    · rcases List.prefix_or_prefix_of_prefix hu begins with shorter | ⟨v, rfl⟩
      · exact shorter
      · cases v with
        | nil => simp
        | cons d v =>
          rw [List.prefix_append_right_inj] at hu
          obtain ⟨rfl, -⟩ := List.cons_prefix_cons.1 hu
          rw [size_append, size_cons] at within
          omega

/-- No more characters than the budget has bytes are kept. -/
theorem clip_take (t : Text) (budget : Nat) : clip (t.take budget) budget = clip t budget := by
  refine clip_eq_iff.2 ⟨?_, size_clip_le t budget, fun u hu fits => ?_⟩
  · refine List.prefix_take_iff.2 ⟨clip_isPrefix t budget, ?_⟩
    exact Nat.le_trans (length_le_size _) (size_clip_le t budget)
  · exact prefix_clip (hu.trans (List.take_prefix budget t)) fits

/-- If the first characters fit, they are what is kept. -/
theorem clip_eq_take {t : Text} {budget : Nat} (fits : size (t.take budget) ≤ budget) :
    clip t budget = t.take budget :=
  (clip_take t budget).symm.trans (clip_eq_self fits)

end Text

namespace Command

variable {limit : Nat} {H : Type}

/-- Where a name is put that has room for `limit` bytes and takes what fits, it takes all that the name of
a command was clipped to. The command answers to exactly the tokens that begin with what is stored and
end there or go on with a character for which there is no room; so it answers to the name that it was
made with. -/
theorem answersTo_iff_begins (put : Text → Text → Text × Receipt)
    (takes : ∀ held more, Text.size held + Text.size more ≤ limit →
      put held more = (held ++ more, .kept))
    (name : Text) (handler : H) :
    let c : Command limit H := .ofName name handler
    (c.name = Text.clip name limit ∧ put [] (Text.clip name limit) = (c.name, .kept)) ∧
    (∀ token, c.answersTo token = true ↔
      c.name <+: token ∧ (token = c.name ∨
        ∃ next more, token = c.name ++ next :: more ∧ limit < Text.size c.name + next.utf8Size)) ∧
    c.answersTo name = true := by
  intro c
  refine ⟨⟨rfl, ?_⟩, fun token => ?_, answersTo_self name handler⟩
  · have fits : Text.size [] + Text.size (Text.clip name limit) ≤ limit := by
      have := Text.size_clip_le name limit
      simpa using this
    exact takes [] (Text.clip name limit) fits
  · exact answersTo_iff.trans (Text.clip_eq_iff_begins c.size_name_le)

/-- Three of five bytes are stored, for the character behind them takes three more. In a token a wide
character makes no difference in its place, and a narrow one does. -/
theorem answersTo_iff_begins_wide :
    let put : Text → Text → Text × Receipt := fun held more =>
      if Text.size held + Text.size more ≤ 5 then (held ++ more, .kept) else (held, .dropped)
    let c : Command 5 Unit := .ofName "né€x".toList ()
    (∀ held more, Text.size held + Text.size more ≤ 5 → put held more = (held ++ more, .kept)) ∧
      put [] "né".toList = (c.name, .kept) ∧ c.answersTo "né😀!".toList = true ∧
      ¬ c.answersTo "né!😀".toList = true := by
  intro put c
  have takes (held more : Text) (fits : Text.size held + Text.size more ≤ 5) :
      put held more = (held ++ more, .kept) := if_pos fits
  obtain ⟨⟨-, stored⟩, exactly, -⟩ := answersTo_iff_begins put takes "né€x".toList ()
  refine ⟨takes, stored, ?_, ?_⟩
  · exact (exactly _).2 ⟨⟨"😀!".toList, rfl⟩, .inr ⟨'😀', ['!'], rfl, by decide⟩⟩
  · intro answers
    rcases ((exactly _).1 answers).2 with same | ⟨next, more, parts, exceeds⟩
    · exact absurd same (by decide)
    · have : next = '!' := by
        have := congrArg (·[2]?) parts
        exact (Option.some.inj this).symm
      rw [this] at exceeds
      exact absurd exceeds (by decide)

/-! ## Characters and bytes -/

/-- A command answers to a token if and only if the longest beginnings of the name and of the token that
fit in the limit are the same, so two commands for which these differ never answer to one token. To begin
with the same characters, as many as the limit has bytes, is enough; it is needed too where these take no
more bytes than the limit. -/
theorem answersTo_iff_longestFitting (limit : Nat) (name : Text) (handler : H) :
    let c : Command limit H := .ofName name handler
    (∀ token, c.answersTo token = true ↔
      ∃ s, Text.LongestFitting name limit s ∧ Text.LongestFitting token limit s) ∧
    (∀ (other : Text) (handler' : H),
      (¬ ∃ s, Text.LongestFitting name limit s ∧ Text.LongestFitting other limit s) → ∀ token,
        ¬ (c.answersTo token = true ∧ (ofName other handler' : Command limit H).answersTo token = true)) ∧
    ∀ token, (token.take limit = name.take limit → c.answersTo token = true) ∧
      (Text.size (name.take limit) ≤ limit → Text.size (token.take limit) ≤ limit →
        (c.answersTo token = true ↔ token.take limit = name.take limit)) := by
  intro c
  have answers_iff {t token : Text} {h : H} :
      (ofName t h : Command limit H).answersTo token = true ↔ Text.clip token limit = Text.clip t limit :=
    answersTo_iff
  have same_iff {t u : Text} : Text.clip u limit = Text.clip t limit ↔
      ∃ s, Text.LongestFitting t limit s ∧ Text.LongestFitting u limit s := by
    constructor
    · intro same
      exact ⟨_, Text.longestFitting_clip t limit, Text.clip_eq_iff.1 same⟩
    · rintro ⟨s, ht, hu⟩
      exact (Text.clip_eq_iff.2 hu).trans (Text.clip_eq_iff.2 ht).symm
  refine ⟨fun token => answers_iff.trans same_iff, ?_, fun token => ⟨fun same => ?_, ?_⟩⟩
  · rintro other handler' differ token ⟨first, second⟩
    exact differ (same_iff.1 ((answers_iff.1 second).symm.trans (answers_iff.1 first)))
  · rw [answers_iff, ← Text.clip_take, same, Text.clip_take]
  · intro fits short
    rw [answers_iff, Text.clip_eq_take short, Text.clip_eq_take fits]

/-- Where a character takes two bytes, two characters are not two bytes: the token goes on behind the
name, and the command answers. -/
theorem not_answersTo_iff_take_eq :
    ¬ ∀ (limit : Nat) (name token : Text),
      (ofName name () : Command limit Unit).answersTo token = true ↔
        token.take limit = name.take limit := by
  intro same
  exact absurd ((same 2 "é".toList "éx".toList).1 (by decide)) (by decide)

end Command

end SerialConsole
