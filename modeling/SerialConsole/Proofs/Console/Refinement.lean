/-
A terminal does what a listener does. The terminal keeps a bounded line, byte by byte; what it
keeps is at every moment a function of what the listener heard (`Listener.console`), each byte and
each operation takes the one to the other (`receive_console`, `perform_terminal`), and so the
reports of any operations in any order are the same for both.
-/
import SerialConsole.Proofs.Command.Selection
import SerialConsole.Proofs.Console.Listener

namespace SerialConsole

namespace Outcome

variable {S T U H : Type}

/-- The outcome with its state seen through a function. -/
def map (f : S → T) (o : Outcome S H) : Outcome T H := ⟨f o.state, o.events, o.lines⟩

@[simp] theorem state_map (f : S → T) (o : Outcome S H) : (o.map f).state = f o.state := rfl

@[simp] theorem events_map (f : S → T) (o : Outcome S H) : (o.map f).events = o.events := rfl

@[simp] theorem lines_map (f : S → T) (o : Outcome S H) : (o.map f).lines = o.lines := rfl

/-- A function that takes every outcome of `g` to one of `k` takes what comes of `g` after `o` to
what comes of `k`. -/
theorem map_andThen {V : Type} (o : Outcome S H) (f : S → T) (g : S → Outcome U H)
    (k : T → Outcome V H) (u : U → V) (h : ∀ s, k (f s) = (g s).map u) :
    (o.map f).andThen k = (o.andThen g).map u := by
  ext <;> simp [h]

end Outcome

/-! ## Finishing a line -/

section Finish

variable {capacity limit : Nat} {H : Type}

/-- The consoles take the same bytes for newline and delimiter, and have the same commands and
handlers. What they keep, how much of it and what they echo is another matter. -/
structure Console.Alike {capacity' : Nat} (c : Console capacity limit H)
    (d : Console capacity' limit H) : Prop where
  newline : c.settings.newline = d.settings.newline
  delimiter : c.settings.delimiter = d.settings.delimiter
  registry : c.registry = d.registry
  fallback : c.fallback = d.fallback
  afterLine : c.afterLine = d.afterLine

namespace Console.Alike

theorem refl (c : Console capacity limit H) : c.Alike c := ⟨rfl, rfl, rfl, rfl, rfl⟩

variable {capacity' : Nat} {c : Console capacity limit H} {d : Console capacity' limit H}

/-- Consoles that are alike stay so, whatever becomes of their lines. -/
theorem anew (h : c.Alike d) (line : Line capacity) (phase : Phase) (line' : Line capacity')
    (phase' : Phase) :
    ({ c with line, phase } : Console capacity limit H).Alike
      { d with line := line', phase := phase' } :=
  ⟨h.newline, h.delimiter, h.registry, h.fallback, h.afterLine⟩

/-- Consoles that are alike make the same calls of a line. -/
theorem calls_eq (h : c.Alike d) (t : Text) : c.calls t = d.calls t := by
  have dispatch (token : Text) (arguments : Arguments) :
      c.dispatch token arguments = d.dispatch token arguments := by
    obtain ⟨settings, line, phase, registry, fallback, afterLine⟩ := c
    obtain ⟨-, -, rfl, rfl, -⟩ := h
    unfold dispatch
    cases d.registry.index? token <;> rfl
  unfold calls Settings.delimiterChar
  simp only [h.delimiter, h.afterLine, dispatch]

end Console.Alike

/-- Where the console stands makes no difference to what it calls. -/
theorem Console.finish_eq (c : Console capacity limit H) (phase : Phase) :
    ({ c with phase } : Console capacity limit H).finish =
      { state := c.clear
        events := (if c.settings.echo then [.lineBreak] else []) ++ c.calls c.line.text
        lines := 1 } := by
  have alike : ({ c with phase := .dispatching } : Console capacity limit H).Alike c :=
    (Alike.refl c).anew ..
  unfold finish
  simp only [alike.calls_eq]
  rfl

end Finish

namespace Listener

variable {capacity limit : Nat} {H : Type}

theorem isPrintable_of_mem_kept {l : Listener capacity limit H} {b : UInt8} (h : b ∈ l.kept) :
    Console.isPrintable b = true :=
  (List.mem_filter.1 (List.mem_of_mem_take h)).2

/-! ## The console of a listener -/

/-- The console that has received what the listener heard. -/
def console (l : Listener capacity limit H) : Console capacity limit H where
  settings := l.settings
  line := ⟨l.kept, List.length_take_le ..⟩
  phase := l.phase
  registry := ⟨l.commands.map fun c => .ofName c.1 c.2⟩
  fallback := l.fallback
  afterLine := l.afterLine

/-- The terminal that has received what the listener heard. -/
def terminal (l : Listener capacity limit H) : Terminal capacity limit H := ⟨l.console, l.link⟩

@[simp] theorem settings_console (l : Listener capacity limit H) :
    l.console.settings = l.settings := rfl

@[simp] theorem afterLine_console (l : Listener capacity limit H) :
    l.console.afterLine = l.afterLine := rfl

theorem text_line_console (l : Listener capacity limit H) :
    l.console.line.text = Text.ofBytes l.kept :=
  Text.decode_of_ascii fun _ h => Console.lt_of_isPrintable (isPrintable_of_mem_kept h)

theorem size_registry_console (l : Listener capacity limit H) :
    l.console.registry.size = l.commands.length :=
  List.length_map ..

theorem get_registry_console (l : Listener capacity limit H) (i : Fin l.console.registry.size) :
    l.console.registry.get i =
      .ofName (l.commands.get (i.cast l.size_registry_console)).1
        (l.commands.get (i.cast l.size_registry_console)).2 := by
  show (l.commands.map _)[i.val] = _
  rw [List.getElem_map]
  rfl

/-! ## Selection -/

theorem select?_eq_some_iff {l : Listener capacity limit H} {piece : Text} {c : Text × H} {i : Nat} :
    l.select? piece = some (c, i) ↔
      ∃ h : i < l.commands.length, l.commands[i] = c ∧ Text.clip c.1 limit = Text.clip piece limit ∧
        ∀ j (hj : j < i), Text.clip l.commands[j].1 limit ≠ Text.clip piece limit := by
  rw [select?, List.find?_eq_some_iff_getElem]
  constructor
  · rintro ⟨named, k, hk, hc, first⟩
    rw [List.length_zipIdx] at hk
    simp only [List.getElem_zipIdx, Nat.zero_add, Prod.mk.injEq] at hc
    obtain ⟨rfl, rfl⟩ := hc
    exact ⟨hk, rfl, by simpa using named, fun j hj => by simpa using first j hj⟩
  · rintro ⟨hi, rfl, named, first⟩
    exact ⟨by simpa using named, i, by simpa using hi, by simp,
      fun j hj => by simpa using first j hj⟩

theorem select?_eq_none_iff {l : Listener capacity limit H} {piece : Text} :
    l.select? piece = none ↔
      ∀ i (h : i < l.commands.length), Text.clip l.commands[i].1 limit ≠ Text.clip piece limit := by
  rw [select?, List.find?_eq_none]
  constructor
  · intro h i hi
    simpa using h (l.commands[i], i) (List.mk_mem_zipIdx_iff_getElem?.2 (by simp))
  · rintro h ⟨c, i⟩ hc
    obtain ⟨hi, rfl⟩ := List.getElem?_eq_some_iff.1 (List.mk_mem_zipIdx_iff_getElem?.1 hc)
    simpa using h i hi

/-- The registry selects what the listener selects. -/
theorem dispatch_console (l : Listener capacity limit H) (piece : Text) (arguments : Arguments) :
    l.console.dispatch piece arguments =
      match l.select? piece with
      | some ((_, handler), i) => [.command i handler arguments]
      | none => (l.fallback.map (Event.unmatched · piece)).toList := by
  unfold Console.dispatch
  -- places in the registry are places in the list of names
  cases hs : l.select? piece with
  | none =>
    have : l.console.registry.index? piece = none := by
      rw [Registry.index?_eq_none_iff]
      intro i
      rw [get_registry_console]
      exact select?_eq_none_iff.1 hs i _
    rw [this]
    rfl
  | some p =>
    obtain ⟨⟨name, handler⟩, i⟩ := p
    obtain ⟨hi, hc, named, first⟩ := select?_eq_some_iff.1 hs
    have hi' : i < l.console.registry.size := by rwa [size_registry_console]
    have : l.console.registry.index? piece = some ⟨i, hi'⟩ := by
      rw [Registry.index?_eq_some_iff]
      constructor
      · simpa [get_registry_console, hc] using named
      · intro j hj
        rw [get_registry_console]
        exact first j hj
    rw [this]
    simp [get_registry_console, hc]

/-- The line leads to the calls that the listener makes. -/
theorem calls_console (l : Listener capacity limit H) :
    l.console.calls l.console.line.text =
      l.dispatch ++ (l.afterLine.map Event.finished).toList := by
  unfold Console.calls dispatch
  simp only [text_line_console, settings_console, afterLine_console, Cursor.next_eq_pieces,
    dispatch_console]
  cases Text.pieces (· = l.settings.delimiterChar) (Text.ofBytes l.kept) with
  | nil => rfl
  | cons piece more => rfl

/-! ## One byte -/

theorem console_forget (l : Listener capacity limit H) :
    ({ l with heard := [] } : Listener capacity limit H).console = l.console.clear := by
  simp [console, kept, phase, Console.clear, Line.empty]

theorem console_append_printable (l : Listener capacity limit H) {b : UInt8}
    (h : Console.isPrintable b = true) :
    ({ l with heard := l.heard ++ [b] } : Listener capacity limit H).console =
      { l.console with line := (l.console.line.push b).1, phase := .accumulating } := by
  have line : ({ l with heard := l.heard ++ [b] } : Listener capacity limit H).console.line =
      (l.console.line.push b).1 := by
    ext1
    rw [Line.bytes_push]
    simp [console, kept, h, Line.take_take_append]
  rw [← line]
  simp [console, phase, h]

theorem console_append_ignored (l : Listener capacity limit H) {b : UInt8}
    (h : Console.isPrintable b = false) :
    ({ l with heard := l.heard ++ [b] } : Listener capacity limit H).console = l.console := by
  simp [console, kept, phase, h]

/-- A byte takes the console of the listener to the console of what it hears next. -/
theorem receive_console (l : Listener capacity limit H) (b : UInt8) :
    l.console.receive b = (l.hear b).map console := by
  -- the newline may be printable: whether it has come is asked first
  by_cases newline : b = l.settings.newline
  · subst newline
    rw [hear_newline]
    show l.console.receive l.console.settings.newline = _
    rw [Console.receive_newline, Console.finish_eq, calls_console, ← List.append_assoc,
      ← console_forget]
    rfl
  · rw [hear_of_ne newline]
    cases printable : Console.isPrintable b with
    | true =>
      rw [Console.receive_printable newline printable]
      ext1
      · exact (console_append_printable l printable).symm
      · cases echo : l.settings.echo <;> simp [echo]
      · rfl
    | false =>
      rw [Console.receive_ignored newline printable]
      ext1
      · exact (console_append_ignored l printable).symm
      · simp
      · rfl

theorem receiveAll_console (l : Listener capacity limit H) (bytes : List UInt8) :
    l.console.receiveAll bytes = (l.hearAll bytes).map console := by
  induction bytes generalizing l with
  | nil => rfl
  | cons b bytes ih =>
    rw [Console.receiveAll_cons, receive_console]
    exact Outcome.map_andThen _ _ _ _ _ ih

/-! ## Operations -/

theorem read_terminal (l : Listener capacity limit H) (count : Nat) :
    l.terminal.read count = (l.listen count).map terminal := by
  unfold Terminal.read listen terminal
  simp only [receiveAll_console]
  rfl

/-- An operation takes the terminal of the listener to the terminal of what it is after it. -/
theorem perform_terminal (l : Listener capacity limit H) (op : Operation H) :
    l.terminal.perform op = (l.perform op).map terminal := by
  cases op with
  | register name handler =>
    unfold Terminal.perform perform terminal
    ext1
    · simp [console, kept, phase, Registry.add]
    · rfl
    · rfl
  | poll count =>
    cases count with
    | none => exact read_terminal l _
    | some count => exact read_terminal l count
  | clear =>
    unfold Terminal.perform perform terminal
    ext1
    · simp [console_forget]
    · rfl
    · rfl
  -- these leave what is heard alone
  | setFallback | setAfterLine | setEcho | feed => rfl

theorem performAll_terminal (l : Listener capacity limit H) (ops : List (Operation H)) :
    l.terminal.performAll ops = (l.performAll ops).map terminal := by
  induction ops generalizing l with
  | nil => rfl
  | cons op ops ih =>
    rw [Terminal.performAll_cons, perform_terminal]
    exact Outcome.map_andThen _ _ _ _ _ ih

theorem terminal_fresh (settings : Settings) (style : BreakStyle) :
    (fresh settings style : Listener capacity limit H).terminal = .fresh settings style := by
  have line : (fresh settings style : Listener capacity limit H).console.line = .empty := by
    ext1
    simp [console, kept, fresh]
  unfold terminal
  rw [Terminal.fresh, Console.ofSettings, ← line]
  rfl

/-! ## Reports -/

theorem report_map_terminal (o : Outcome (Listener capacity limit H) H) :
    Terminal.report (o.map terminal) = report o := by
  have names : o.state.console.registry.names = o.state.names := by
    simp [console, Registry.names, Listener.names]
  unfold Terminal.report report
  rw [← names]
  rfl

theorem reports_terminal (l : Listener capacity limit H) (ops : List (Operation H)) :
    l.terminal.reports ops = l.reports ops := by
  induction ops generalizing l with
  | nil => rfl
  | cons op ops ih =>
    unfold Terminal.reports reports
    rw [perform_terminal, report_map_terminal, Outcome.state_map, ih]

end Listener

/-- Whatever is done with it in whatever order, a terminal reports after every operation what a
listener reports: the same events, the same number of lines, and the same state of things. -/
theorem Terminal.reports_eq_listener {capacity limit : Nat} {H : Type} (settings : Settings)
    (style : BreakStyle) (ops : List (Operation H)) :
    (fresh settings style : Terminal capacity limit H).reports ops =
      (Listener.fresh settings style : Listener capacity limit H).reports ops := by
  rw [← Listener.terminal_fresh]
  exact Listener.reports_terminal _ ops

end SerialConsole
