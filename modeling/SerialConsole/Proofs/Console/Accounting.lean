/-
Every newline is accounted for. A poll completes as many lines as it reads newlines, and the calls it
makes are one block for each of them, in order: at most one call that hands the first token of the
line over, and behind it the routine for finished lines (`Setup.Block`). A line may have begun in
earlier polls, so a block answers to all that was heard since the line before ended
(`Listener.blocks_hearAll`); which handlers there are, the operations before the poll say.
-/
import SerialConsole.Proofs.Console.History
import SerialConsole.Proofs.Console.Lines
import SerialConsole.Proofs.Console.Reach

namespace SerialConsole

variable {capacity limit : Nat} {H : Type}

/-! ## Blocks -/

namespace Setup

/-- The first token of a line, and what it has to be to come out of a line of a terminal. -/
structure FirstToken (settings : Settings) (capacity : Nat) (line token : Text) : Prop where
  first : (Text.pieces (· = settings.delimiterChar) line).head? = some token
  plain : settings.IsToken token
  fits : Text.size token ≤ capacity

/-- The line is handed over by these calls, which are one or none: to the first command that has the
name of its first token, as far as names count, and else to the fallback. -/
inductive Handed (settings : Settings) (capacity limit : Nat) (s : Setup H) (line : Text) :
    List (Event H) → Prop
  | command {token : Text} {i : Nat} (leads : FirstToken settings capacity line token)
      (registered : i < s.commands.length)
      (named : Text.clip s.commands[i].1 limit = Text.clip token limit)
      (earliest : ∀ j (hj : j < i), Text.clip s.commands[j].1 limit ≠ Text.clip token limit) :
      Handed settings capacity limit s line
        [.command i s.commands[i].2
          ⟨⟨Text.afterFirst settings.delimiterChar line⟩, settings.delimiterChar⟩]
  | fallback {token : Text} {handler : H} (leads : FirstToken settings capacity line token)
      (unnamed : ∀ c ∈ s.commands, Text.clip c.1 limit ≠ Text.clip token limit)
      (set : s.fallback = some handler) :
      Handed settings capacity limit s line [.unmatched handler token]
  | unanswered {token : Text} (leads : FirstToken settings capacity line token)
      (unnamed : ∀ c ∈ s.commands, Text.clip c.1 limit ≠ Text.clip token limit)
      (unset : s.fallback = none) : Handed settings capacity limit s line []
  | blank (nothing : Text.pieces (· = settings.delimiterChar) line = []) :
      Handed settings capacity limit s line []

/-- The calls of a finished line of these bytes: the line is handed over, and then the routine for
finished lines runs once, if there is one. -/
def Block (settings : Settings) (capacity limit : Nat) (s : Setup H) (bytes : List UInt8)
    (calls : List (Event H)) : Prop :=
  ∃ handed, Handed settings capacity limit s (Console.textOf capacity bytes) handed ∧
    calls = handed ++ (s.afterLine.map Event.finished).toList

end Setup

/-- The lines that newlines complete. -/
def completed (newline : UInt8) (bytes : List UInt8) : List (List UInt8) :=
  (bytes.splitOn newline).dropLast

theorem completed_unfinished {newline : UInt8} {bytes : List UInt8} (unfinished : newline ∉ bytes) :
    completed newline bytes = [] := by
  rw [completed, List.splitOn_eq_singleton unfinished]
  rfl

theorem completed_append_cons {newline : UInt8} {line : List UInt8} (unfinished : newline ∉ line)
    (bytes : List UInt8) :
    completed newline (line ++ newline :: bytes) = line :: completed newline bytes := by
  rw [completed, List.splitOn_append_cons_self_of_not_mem unfinished,
    List.dropLast_cons_of_ne_nil (List.splitOn_ne_nil newline bytes), completed]

/-! ## The lines of a listener -/

namespace Listener

variable {settings : Settings} {l : Listener capacity limit H}

theorem Keeps.delimiterChar (keeps : Keeps settings l) :
    l.settings.delimiterChar = settings.delimiterChar :=
  congrArg Char.ofUInt8 keeps.delimiter

theorem firstToken_of_head? (keeps : Keeps settings l) {piece : Text}
    (h : (Text.pieces (· = l.settings.delimiterChar) (Text.ofBytes l.kept)).head? = some piece) :
    Setup.FirstToken settings capacity (Console.textOf capacity l.heard) piece := by
  obtain ⟨token, rfl, nonempty, short, bytes⟩ := exists_token_of_piece keeps h
  refine ⟨keeps.delimiterChar ▸ h, ⟨?_, fun c hc => ?_⟩, ?_⟩
  · exact fun nothing => nonempty (List.map_eq_nil_iff.1 nothing)
  · obtain ⟨b, hb, rfl⟩ := List.mem_map.1 hc
    exact tokenByte_iff.1 (bytes b hb)
  · rw [Text.size_ofBytes fun b hb => (bytes b hb).lt]
    exact short

/-- What has been heard is handed over. -/
theorem handed_dispatch (keeps : Keeps settings l) :
    l.setup.Handed settings capacity limit (Console.textOf capacity l.heard) l.dispatch := by
  unfold dispatch
  simp only [keeps.delimiterChar]
  rcases hp : Text.pieces (· = settings.delimiterChar) (Text.ofBytes l.kept) with _ | ⟨piece, more⟩
  · exact .blank hp
  have leads : Setup.FirstToken settings capacity (Console.textOf capacity l.heard) piece :=
    firstToken_of_head? keeps (by rw [keeps.delimiterChar, hp, List.head?_cons])
  rcases hs : l.select? piece with _ | ⟨⟨name, handler⟩, i⟩
  · have unnamed : ∀ c ∈ l.setup.commands, Text.clip c.1 limit ≠ Text.clip piece limit := by
      intro c hc
      obtain ⟨i, hi, rfl⟩ := List.getElem_of_mem hc
      exact select?_eq_none_iff.1 hs i hi
    simp only [hs]
    rcases hf : l.fallback with _ | handler
    · exact .unanswered leads unnamed hf
    · exact .fallback leads unnamed hf
  · obtain ⟨registered, here, named, earliest⟩ := select?_eq_some_iff.1 hs
    rw [← here] at named
    obtain rfl : l.commands[i].2 = handler := by rw [here]
    simp only [hs]
    exact .command (s := l.setup) leads registered named earliest

theorem isCall_of_mem_dispatch (l : Listener capacity limit H) :
    ∀ e ∈ l.dispatch ++ (l.afterLine.map Event.finished).toList, e.isCall = true := by
  rw [← calls_console]
  exact fun e => Console.isCall_of_mem_calls

/-- Each newline among bytes that are heard completes a line, with a block of calls of its own; the
first of these lines may have begun before. -/
theorem blocks_hearAll (keeps : Keeps settings l) (bytes : List UInt8) :
    (l.hearAll bytes).lines = bytes.count settings.newline ∧
      ∃ blocks, (l.hearAll bytes).events.filter Event.isCall = blocks.flatten ∧
        blocks.length = bytes.count settings.newline ∧
        List.Forall₂ (l.setup.Block settings capacity limit)
          (completed settings.newline (l.heard ++ bytes)) blocks := by
  induction bytes generalizing l with
  | nil =>
    rw [List.append_nil, completed_unfinished keeps.heard]
    exact ⟨rfl, [], rfl, rfl, .nil⟩
  | cons b bytes ih =>
    obtain ⟨lines, blocks, calls, length, each⟩ := ih (hear_keeps keeps b).1
    rw [hearAll, Outcome.lines_andThen, Outcome.events_andThen, List.filter_append, lines, calls]
    by_cases newline : b = l.settings.newline
    · subst newline
      rw [hear_newline] at each ⊢
      rw [keeps.newline, completed_append_cons keeps.heard, List.count_cons_self]
      have unwritten : (if l.settings.echo then [Event.lineBreak] else [] : List (Event H)).filter
          Event.isCall = [] := by
        cases l.settings.echo <;> rfl
      refine ⟨Nat.add_comm .., (l.dispatch ++ (l.afterLine.map Event.finished).toList) :: blocks,
        ?_, ?_, .cons ⟨_, handed_dispatch keeps, rfl⟩ each⟩
      · rw [List.append_assoc, List.filter_append, unwritten, List.nil_append,
          List.filter_eq_self.2 l.isCall_of_mem_dispatch, List.flatten_cons]
      · rw [List.length_cons, length]
    · rw [hear_of_ne newline] at each ⊢
      have silent : (if l.settings.echo && Console.isPrintable b then [Event.byte b] else [] :
          List (Event H)).filter Event.isCall = [] := by
        cases l.settings.echo && Console.isPrintable b <;> rfl
      rw [keeps.newline] at newline
      rw [List.append_assoc, List.singleton_append] at each
      rw [List.count_cons_of_ne newline]
      refine ⟨Nat.zero_add _, blocks, ?_, length, each⟩
      rw [silent, List.nil_append]

end Listener

namespace Terminal

/-- A poll, whatever was done before it, completes as many lines as it reads newlines, and its calls
are as many blocks, in order: what each line, read in this poll or begun in earlier ones, is answered
with by the commands and handlers that there are by then. -/
theorem poll_accounts (settings : Settings) (style : BreakStyle) (ops : List (Operation H))
    (count : Option Nat) :
    let t : Terminal capacity limit H := ((fresh settings style).performAll ops).state
    let o := t.perform (.poll count)
    let heard := Stroke.heard settings.newline [] (Operation.strokes settings.echo [] ops)
    ∃ taken, t.link.unread = taken ++ o.state.link.unread ∧
      o.lines = taken.count settings.newline ∧
      ∃ blocks, o.events.filter Event.isCall = blocks.flatten ∧
        blocks.length = taken.count settings.newline ∧
        List.Forall₂ ((Setup.ofHistory settings.echo ops).Block settings capacity limit)
          (completed settings.newline (heard ++ taken)) blocks := by
  intro t o heard
  let l := ((Listener.fresh settings style : Listener capacity limit H).performAll ops).state
  have state : l = _ := Listener.state_performAll _ ops
  have known : l.heard = heard ∧ l.setup = Setup.ofHistory settings.echo ops := by
    rw [state]
    exact ⟨rfl, rfl⟩
  have terminal : t = l.terminal := state_fresh settings style ops
  have keeps : Listener.Keeps settings l :=
    (Listener.performAll_keeps (Listener.keeps_fresh settings style) ops).1
  obtain ⟨lines, blocks, calls, length, each⟩ :=
    Listener.blocks_hearAll keeps (l.link.unread.take (count.getD l.link.unread.length))
  have outcome : o = (l.listen (count.getD l.link.unread.length)).map Listener.terminal := by
    show t.perform (.poll count) = _
    rw [terminal, Listener.perform_terminal, Listener.perform_poll]
  refine ⟨l.link.unread.take (count.getD l.link.unread.length), ?_, ?_, blocks, ?_, length, ?_⟩
  · rw [terminal, outcome]
    exact (List.take_append_drop ..).symm
  · rw [outcome]
    exact lines
  · rw [outcome, ← calls]
    exact BreakStyle.filter_write _ _ (fun _ => rfl) rfl
  · rw [← known.1, ← known.2]
    exact each

end Terminal

end SerialConsole
