/-
Lines that no delimiter divides. A delimiter that is not printable, or is the newline, is never kept in a
line (`Settings.delimiterChar_not_mem_textOf`). A line with anything in it is then a single token, blanks
and all, so whatever it is handed to gets it whole and a command is left no arguments
(`Setup.Handed.whole`); this is so of every line of every run (`Terminal.lines_undivided`).
-/
import SerialConsole.Proofs.Console.Accounting
import Mathlib.Data.List.Forall2

namespace SerialConsole

variable {capacity limit : Nat} {H : Type}

/-! ## Delimiters that are never kept -/

/-- The delimiter cannot stand in a line: it is not printable, or it ends the line. -/
def Settings.Undividing (s : Settings) : Prop :=
  s.delimiter < 0x20 ∨ 0x7E < s.delimiter ∨ s.delimiter = s.newline

theorem Settings.delimiterChar_not_mem_textOf {s : Settings} (never : s.Undividing)
    {bytes : List UInt8} (unfinished : s.newline ∉ bytes) :
    s.delimiterChar ∉ Console.textOf capacity bytes := by
  intro h
  obtain ⟨b, hb, same⟩ := List.mem_map.1 h
  obtain rfl : b = s.delimiter := Text.ofUInt8_injective same
  obtain ⟨received, shown⟩ := List.mem_filter.1 (List.mem_of_mem_take hb)
  obtain ⟨low, high⟩ := Console.isPrintable_iff.1 shown
  rcases never with below | above | newline
  · exact absurd (UInt8.lt_iff_toNat_lt.1 below) (Nat.not_lt.2 low)
  · exact absurd (UInt8.lt_iff_toNat_lt.1 above) (Nat.not_lt.2 high)
  · exact unfinished (newline ▸ received)

/-! ## Lines handed over whole -/

/-- There is nothing left to read, however it is asked for. -/
structure Arguments.Spent (a : Arguments) : Prop where
  next : a.next = (none, a)
  remainder : a.remainder = (none, a)

theorem Arguments.spent_of_exhausted (d : Char) : Arguments.Spent ⟨⟨[]⟩, d⟩ := ⟨rfl, rfl⟩

namespace Setup

/-- The line is handed over whole, if there is anything in it: to the first command that has the name
it begins with, as far as names count, with no arguments left, and else to the fallback. -/
inductive HandedWhole (limit : Nat) (s : Setup H) (line : Text) : List (Event H) → Prop
  | command {i : Nat} {arguments : Arguments} (nonempty : line ≠ []) (registered : i < s.commands.length)
      (named : Text.clip s.commands[i].1 limit = Text.clip line limit)
      (earliest : ∀ c ∈ s.commands.take i, Text.clip c.1 limit ≠ Text.clip line limit)
      (spent : arguments.Spent) :
      HandedWhole limit s line [.command i s.commands[i].2 arguments]
  | fallback {handler : H} (nonempty : line ≠ [])
      (unnamed : ∀ c ∈ s.commands, Text.clip c.1 limit ≠ Text.clip line limit)
      (set : s.fallback = some handler) : HandedWhole limit s line [.unmatched handler line]
  | unanswered (nonempty : line ≠ [])
      (unnamed : ∀ c ∈ s.commands, Text.clip c.1 limit ≠ Text.clip line limit)
      (unset : s.fallback = none) : HandedWhole limit s line []
  | blank (nothing : line = []) : HandedWhole limit s line []

/-- The calls of a finished line of these bytes: the line is handed over whole, and then the routine for
finished lines runs once, if there is one. -/
def WholeBlock (capacity limit : Nat) (s : Setup H) (bytes : List UInt8) (calls : List (Event H)) :
    Prop :=
  ∃ handed, s.HandedWhole limit (Console.textOf capacity bytes) handed ∧
    calls = handed ++ (s.afterLine.map Event.finished).toList

variable {settings : Settings} {s : Setup H} {line token : Text} {calls : List (Event H)}
  {bytes : List UInt8}

/-- The first token of a line without delimiters is the line. -/
theorem FirstToken.eq_line (leads : FirstToken settings capacity line token)
    (free : settings.delimiterChar ∉ line) : line ≠ [] ∧ token = line := by
  have first := leads.first
  by_cases nothing : line = []
  · rw [nothing] at first
    cases first
  · rw [Text.pieces_of_not_mem nothing free, List.head?_cons, Option.some.injEq] at first
    exact ⟨nothing, first.symm⟩

/-- A line without delimiters is handed over whole. -/
theorem Handed.whole (handed : Handed settings capacity limit s line calls)
    (free : settings.delimiterChar ∉ line) : s.HandedWhole limit line calls := by
  cases handed with
  | command leads registered named earliest =>
    obtain ⟨nonempty, rfl⟩ := leads.eq_line free
    rw [Text.afterFirst_of_not_mem free]
    refine .command nonempty registered named (fun c hc => ?_) (Arguments.spent_of_exhausted _)
    obtain ⟨j, hj, rfl⟩ := List.mem_take_iff_getElem.1 hc
    exact earliest j (Nat.lt_of_lt_of_le hj (Nat.min_le_left ..))
  | fallback leads unnamed set =>
    obtain ⟨nonempty, rfl⟩ := leads.eq_line free
    exact .fallback nonempty unnamed set
  | unanswered leads unnamed unset =>
    obtain ⟨nonempty, rfl⟩ := leads.eq_line free
    exact .unanswered nonempty unnamed unset
  | blank nothing =>
    by_cases nonempty : line = []
    · exact .blank nonempty
    · rw [Text.pieces_of_not_mem nonempty free] at nothing
      cases nothing

theorem Block.whole (never : settings.Undividing) (unfinished : settings.newline ∉ bytes)
    (block : s.Block settings capacity limit bytes calls) : s.WholeBlock capacity limit bytes calls := by
  obtain ⟨handed, given, rfl⟩ := block
  exact ⟨handed, given.whole (settings.delimiterChar_not_mem_textOf never unfinished), rfl⟩

end Setup

/-! ## Whole lines of a run -/

theorem not_mem_of_mem_completed {newline : UInt8} {bytes line : List UInt8}
    (h : line ∈ completed newline bytes) : newline ∉ line :=
  not_mem_of_mem_splitOn (List.dropLast_subset _ h)

theorem Listener.wholeBlocks_hearAll {settings : Settings} {l : Listener capacity limit H}
    (keeps : Keeps settings l) (never : settings.Undividing) (bytes : List UInt8) :
    ∃ blocks, (l.hearAll bytes).events.filter Event.isCall = blocks.flatten ∧
      blocks.length = (l.hearAll bytes).lines ∧
      List.Forall₂ (l.setup.WholeBlock capacity limit)
        (completed settings.newline (l.heard ++ bytes)) blocks := by
  obtain ⟨lines, blocks, calls, length, each⟩ := blocks_hearAll keeps bytes
  have unfinished : ∀ line ∈ completed settings.newline (l.heard ++ bytes), settings.newline ∉ line :=
    fun _ => not_mem_of_mem_completed
  refine ⟨blocks, calls, length.trans lines.symm, ?_⟩
  exact ((List.forall₂_and_left _ _).2 ⟨unfinished, each⟩).imp fun _ _ h => h.2.whole never h.1

namespace Terminal

/-- Where the delimiter cannot be kept in a line, each line that a poll completes, whatever was done
before, is handed over whole, be it blanks only: with no arguments to the first command that answers to
it, or to the fallback. The line is what the printable bytes since the one before left, as many as there
is room for, and up to the poll these are what waits in the terminal. -/
theorem lines_undivided (settings : Settings) (style : BreakStyle)
    (never : settings.Undividing) (ops : List (Operation H)) (count : Option Nat) :
    let t : Terminal capacity limit H := ((fresh settings style).performAll ops).state
    let o := t.perform (.poll count)
    let heard := Stroke.heard settings.newline [] (Operation.strokes settings.echo [] ops)
    let taken := t.link.unread.take (count.getD t.link.unread.length)
    t.console.line.bytes = (heard.filter Console.isPrintable).take capacity ∧
      ∃ blocks, o.events.filter Event.isCall = blocks.flatten ∧ blocks.length = o.lines ∧
        List.Forall₂ ((Setup.ofHistory settings.echo ops).WholeBlock capacity limit)
          (completed settings.newline (heard ++ taken)) blocks := by
  intro t o heard taken
  let l := ((Listener.fresh settings style : Listener capacity limit H).performAll ops).state
  have known : l.heard = heard ∧ l.setup = Setup.ofHistory settings.echo ops := by
    rw [show l = _ from Listener.state_performAll _ ops]
    exact ⟨rfl, rfl⟩
  have terminal : t = l.terminal := state_fresh settings style ops
  have keeps : Listener.Keeps settings l :=
    (Listener.performAll_keeps (Listener.keeps_fresh settings style) ops).1
  have outcome : o = (l.listen (count.getD l.link.unread.length)).map Listener.terminal := by
    show t.perform (.poll count) = _
    rw [terminal, Listener.perform_terminal, Listener.perform_poll]
  have reads : taken = l.link.unread.take (count.getD l.link.unread.length) := by
    show t.link.unread.take (count.getD t.link.unread.length) = _
    rw [terminal]
    rfl
  obtain ⟨blocks, calls, length, each⟩ := Listener.wholeBlocks_hearAll keeps never taken
  rw [known.1, known.2] at each
  refine ⟨?_, blocks, ?_, ?_, each⟩
  · rw [terminal, ← known.1]
    rfl
  · rw [outcome, ← calls, reads]
    exact BreakStyle.filter_write _ _ (fun _ => rfl) rfl
  · rw [outcome, length, reads]
    rfl

/-- The delimiter is a letter with an accent, and comes in the middle of a line that a command answers
to. The lines after it are blanks only, nothing, and longer than there is room for. -/
theorem lines_undivided_accent :
    let settings : Settings := { delimiter := 0xE9 }
    let ops : List (Operation Nat) :=
      [.register "led".toList 0, .setFallback 1, .setAfterLine 2,
        .feed ("led ".toUTF8.toList ++ [0xE9]), .poll none, .feed "on\n  \n\nhello you\nle".toUTF8.toList]
    let t : Terminal 8 3 Nat := ((fresh settings .bytes).performAll ops).state
    let calls := (t.perform (.poll none)).events.filter Event.isCall
    settings.Undividing ∧
      calls = [.command 0 0 ⟨⟨[]⟩, 'é'⟩, .finished 2, .unmatched 1 "  ".toList, .finished 2, .finished 2,
        .unmatched 1 "hello yo".toList, .finished 2] ∧
      ∃ blocks, calls = blocks.flatten ∧
        List.Forall₂ ((Setup.ofHistory false ops).WholeBlock 8 3)
          ["led ".toUTF8.toList ++ 0xE9 :: "on".toUTF8.toList, "  ".toUTF8.toList, [],
            "hello you".toUTF8.toList] blocks := by
  intro settings ops t calls
  have never : settings.Undividing := .inr (.inl (by decide))
  have lines : completed 10 (Stroke.heard 10 [] (Operation.strokes false [] ops) ++
      t.link.unread.take t.link.unread.length) =
        ["led ".toUTF8.toList ++ 0xE9 :: "on".toUTF8.toList, "  ".toUTF8.toList, [],
          "hello you".toUTF8.toList] := by
    decide +kernel
  obtain ⟨-, blocks, made, -, each⟩ := @lines_undivided 8 3 Nat settings .bytes never ops none
  exact ⟨never, by decide +kernel, blocks, made, lines ▸ each⟩

end Terminal

end SerialConsole
