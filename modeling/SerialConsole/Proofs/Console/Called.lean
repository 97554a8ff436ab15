/-
A command is called by its own name. The line is cut to what there is room for and the name to what
counts of it, each without regard to the other; as long as what counts of the name finds room in the
line, the token that is read and the name are the same as far as names count (`clip_take`). So the
name selects a command wherever it is cut, with delimiters in front of it and anything behind a
delimiter after it (`dispatched_name`).
-/
import SerialConsole.Proofs.Console.Lines
import SerialConsole.Proofs.Console.Reach
import SerialConsole.Proofs.Line.Spaced

namespace SerialConsole

/-- What may stand around a name: so many delimiters in front of it; behind it nothing, or a
delimiter and whatever does not end the line; and nothing at all where delimiters are not kept. -/
structure Settings.Surrounds (s : Settings) (front : Nat) (tail : List UInt8) : Prop where
  behind : tail = [] ∨ ∃ rest, tail = s.delimiter :: rest ∧ s.newline ∉ rest
  kept : (Console.isPrintable s.delimiter = true ∧ s.delimiter ≠ s.newline) ∨ (front = 0 ∧ tail = [])

variable {capacity limit : Nat} {H : Type} {s : Settings} {name : Text} {front : Nat}
  {tail : List UInt8}

/-! ## The text of the line -/

/-- A name and its beginning are the same as far as names count, if the beginning has all that
counts. -/
theorem Settings.IsToken.clip_take (token : s.IsToken name) {room : Nat}
    (counts : min name.length limit ≤ room) :
    Text.clip (name.take room) limit = Text.clip name limit := by
  have ascii : ∀ c ∈ name.take room, c.toNat < 0x80 :=
    fun c hc => token.ascii c (List.mem_of_mem_take hc)
  rw [Text.clip_of_ascii ascii, Text.clip_of_ascii token.ascii, List.take_take]
  rcases Nat.lt_or_ge room limit with short | within
  · rw [Nat.min_eq_right (Nat.le_of_lt short), List.take_of_length_le (by omega),
      List.take_of_length_le (by omega)]
  · rw [Nat.min_eq_left within]

namespace Settings.Surrounds

theorem newline_not_mem (around : s.Surrounds front tail) (token : s.IsToken name) :
    s.newline ∉ List.replicate front s.delimiter ++ Text.encode name ++ tail := by
  intro h
  rw [List.mem_append, List.mem_append] at h
  rcases h with (inFront | inName) | inTail
  · rcases around.kept with ⟨-, other⟩ | ⟨nothing, -⟩
    · exact other (List.eq_of_mem_replicate inFront).symm
    · rw [nothing] at inFront
      cases inFront
  · exact (token.tokenByte inName).other rfl
  · rcases around.behind with nothing | ⟨rest, starts, others⟩
    · rw [nothing] at inTail
      cases inTail
    · rcases around.kept with ⟨-, other⟩ | ⟨-, nothing⟩
      · rw [starts] at inTail
        rcases List.mem_cons.1 inTail with same | inRest
        · exact other same.symm
        · exact others inRest
      · rw [nothing] at inTail
        cases inTail

theorem filter_front (around : s.Surrounds front tail) :
    (List.replicate front s.delimiter).filter Console.isPrintable =
      List.replicate front s.delimiter := by
  rcases around.kept with ⟨printable, -⟩ | ⟨nothing, -⟩
  · exact List.filter_eq_self.2 fun b hb => List.eq_of_mem_replicate hb ▸ printable
  · rw [nothing]
    rfl

/-- What is kept of the tail starts with a delimiter, if it starts. -/
theorem head?_filter_tail (around : s.Surrounds front tail) :
    ∀ b ∈ (tail.filter Console.isPrintable).head?, b = s.delimiter := by
  intro b hb
  rcases around.behind with rfl | ⟨rest, rfl, -⟩
  · cases hb
  · rcases around.kept with ⟨printable, -⟩ | ⟨-, nothing⟩
    · rw [List.filter_cons_of_pos printable] at hb
      exact (Option.some.inj hb).symm
    · cases nothing

/-- The line is the delimiters in front, as much of the name as there is room for, and what is left
of the tail. -/
theorem textOf_eq (around : s.Surrounds front tail) (token : s.IsToken name)
    (room : front ≤ capacity) :
    ∃ rest : Text, (∀ c ∈ rest.head?, c = s.delimiterChar) ∧
      Console.textOf capacity (List.replicate front s.delimiter ++ Text.encode name ++ tail) =
        List.replicate front s.delimiterChar ++ name.take (capacity - front) ++ rest := by
  refine ⟨(Text.ofBytes (tail.filter Console.isPrintable)).take (capacity - (front + name.length)),
    ?_, ?_⟩
  · intro c hc
    have start : (Text.ofBytes (tail.filter Console.isPrintable)).head? = some c := by
      rw [List.head?_take] at hc
      split at hc
      · cases hc
      · exact hc
    rw [Text.ofBytes, List.head?_map] at start
    obtain ⟨b, hb, rfl⟩ := Option.map_eq_some_iff.1 start
    rw [around.head?_filter_tail b hb]
    rfl
  · unfold Console.textOf
    rw [List.filter_append, List.filter_append, around.filter_front, token.filter_encode,
      Text.ofBytes_take, Text.ofBytes_append, Text.ofBytes_append, Text.ofBytes_replicate,
      Text.ofBytes_encode token.ascii, List.take_append, List.take_append, List.length_append,
      List.length_replicate, List.take_of_length_le (by simpa using room)]
    rfl

/-- Echo has nothing to do with it. -/
theorem congr {s' : Settings} (around : s.Surrounds front tail) (newline : s'.newline = s.newline)
    (delimiter : s'.delimiter = s.delimiter) : s'.Surrounds front tail :=
  ⟨newline ▸ delimiter ▸ around.behind, newline ▸ delimiter ▸ around.kept⟩

end Settings.Surrounds

/-! ## The call -/

/-- The token of the line is as much of the name as there is room for. -/
theorem Settings.Surrounds.next_textOf (around : s.Surrounds front tail) (token : s.IsToken name)
    (room : front < capacity) :
    ∃ cursor,
      (Cursor.ofText (Console.textOf capacity
        (List.replicate front s.delimiter ++ Text.encode name ++ tail))).next [s.delimiterChar] =
        (some (name.take (capacity - front)), cursor) := by
  obtain ⟨rest, ends, line⟩ := around.textOf_eq token (Nat.le_of_lt room)
  have nonempty : name.take (capacity - front) ≠ [] := by
    intro nothing
    rcases List.take_eq_nil_iff.1 nothing with full | blank
    · omega
    · exact token.nonempty blank
  have free : s.delimiterChar ∉ name.take (capacity - front) :=
    fun hd => token.free (List.mem_of_mem_take hd)
  exact ⟨_, line ▸ Cursor.next_append front nonempty free ends⟩

/-- A name that is sent to a terminal that has a command of that name runs the first command that
has it, once, and is handed to no other and not to the fallback. -/
theorem Terminal.dispatched_name {t : Terminal capacity limit H} {schedule : List Traffic}
    (blank : t.console.line.bytes = []) (token : t.console.settings.IsToken name)
    (around : t.console.settings.Surrounds front tail)
    (room : front + max 1 (min name.length limit) ≤ capacity)
    (there : Text.clip name limit ∈ t.console.registry.names)
    (sent : t.taken schedule = List.replicate front t.console.settings.delimiter ++
      Text.encode name ++ tail ++ [t.console.settings.newline]) :
    ∃ i arguments, t.console.registry.Selects name i ∧
      t.dispatched schedule = [.command i (t.console.registry.get i).handler arguments] := by
  have fits : front < capacity := by omega
  obtain ⟨cursor, next⟩ := around.next_textOf token fits
  obtain ⟨i, selects⟩ := Registry.exists_selects there
  -- the token may be shorter than the name, but not in what counts
  have counts : min name.length limit ≤ capacity - front := by omega
  have selected := selects.congr (token.clip_take counts)
  refine ⟨i, ⟨cursor, t.console.settings.delimiterChar⟩, selects, ?_⟩
  rw [dispatched_line blank (around.newline_not_mem token) sent, next]
  exact t.console.dispatch_of_selects selected _

/-! ## Terminals in use -/

/-- However a terminal is used, newline and delimiter stay as they were set, and the names are those
that were added. -/
theorem Terminal.performAll_fresh (capacity limit : Nat) (settings : Settings) (style : BreakStyle)
    (ops : List (Operation H)) :
    let t := ((fresh settings style : Terminal capacity limit H).performAll ops).state
    t.console.settings.newline = settings.newline ∧
      t.console.settings.delimiter = settings.delimiter ∧
      t.console.registry.names = (Operation.registered ops).map (Text.clip · limit) := by
  intro t
  have fresh : Listener.Keeps settings (.fresh settings style : Listener capacity limit H) :=
    ⟨rfl, rfl, List.not_mem_nil⟩
  obtain ⟨keeps, names⟩ := Listener.performAll_keeps fresh ops
  have same : t = ((Listener.fresh settings style).performAll ops).state.terminal := by
    show ((Terminal.fresh settings style).performAll ops).state = _
    rw [← Listener.terminal_fresh, Listener.performAll_terminal, Outcome.state_map]
  rw [same]
  refine ⟨keeps.newline, keeps.delimiter, ?_⟩
  calc _ = ((Listener.fresh settings style).performAll ops).state.names := by
        simp [Listener.terminal, Listener.console, Registry.names, Listener.names]
    _ = (Operation.registered ops).map (Text.clip · limit) := names.trans (List.nil_append _)

/-- A command is called by its own name. Whatever a terminal has been used for, if nothing of a line
is kept, a name under which a command was added is sent with any surroundings that are allowed, and
what counts of the name finds room: exactly one handler runs, once, that of the first command with
the same name as far as names count. -/
theorem Terminal.called_by_own_name (settings : Settings) (style : BreakStyle)
    (ops : List (Operation H)) (registered : name ∈ Operation.registered ops)
    (token : settings.IsToken name) (around : settings.Surrounds front tail)
    (room : front + max 1 (min name.length limit) ≤ capacity) (schedule : List Traffic) :
    let t := ((fresh settings style : Terminal capacity limit H).performAll ops).state
    t.console.line.bytes = [] →
    t.taken schedule =
      List.replicate front settings.delimiter ++ Text.encode name ++ tail ++ [settings.newline] →
    ∃ i arguments, t.console.registry.Selects name i ∧
      t.dispatched schedule = [.command i (t.console.registry.get i).handler arguments] := by
  intro t blank sent
  obtain ⟨newline, delimiter, names⟩ := performAll_fresh capacity limit settings style ops
  refine dispatched_name blank (token.congr newline delimiter) (around.congr newline delimiter) room
    ?_ ?_
  · rw [names]
    exact List.mem_map_of_mem registered
  · rw [newline, delimiter]
    exact sent

/-- Of the name six characters find room behind a delimiter, of which four count; an earlier command
has the same four; the line is cut short in the name and comes in two pieces. -/
theorem Terminal.called_by_own_name_cut :
    let settings : Settings := { echo := true }
    let ops : List (Operation Nat) := [.register "help".toList 0, .register "toggle_all".toList 1,
      .register "toggle_led".toList 2, .setFallback 3, .feed [120, 10], .poll none]
    let t := ((fresh settings .bytes : Terminal 7 4 Nat).performAll ops).state
    let schedule := [Traffic.feed " toggl".toUTF8.toList, .poll (some 3),
      .feed "e_led off\n".toUTF8.toList, .poll none]
    ∃ i arguments, t.console.registry.Selects "toggle_led".toList i ∧
      t.dispatched schedule = [.command i (t.console.registry.get i).handler arguments] := by
  intro settings ops t schedule
  have token : settings.IsToken "toggle_led".toList := by decide +kernel
  have around : settings.Surrounds 1 " off".toUTF8.toList :=
    ⟨.inr ⟨"off".toUTF8.toList, by decide +kernel, by decide +kernel⟩,
      .inl ⟨by decide, by decide⟩⟩
  exact called_by_own_name settings .bytes ops (by decide +kernel) token around (by decide) schedule
    (by decide +kernel) (by decide +kernel)

end SerialConsole
