/-
What the session prints. Each line of the input is answered by itself: it is echoed, and the routine
that its first piece selects answers to what is kept of it (`Routine.block`). The console starts
every line as it started the first, so what is printed for an input is what is printed for its
lines, one after the other, and the echo of the rest (`printed_joined`); and a session in which
nothing follows the line that ends it prints just that in every order (`prints_transcript`).
-/
import SerialConsole.Proofs.Console.Lines
import SerialConsole.Proofs.Session.Ending
import SerialConsole.Proofs.Session.Interleaving

namespace SerialConsole

/-! ## Lines -/

namespace Session

/-- The lines of an input, each ended by a newline. -/
def lines (input : List UInt8) : List (List UInt8) := (input.splitOn 10).dropLast

/-- What comes behind the last newline. -/
def rest (input : List UInt8) : List UInt8 :=
  (input.splitOn 10).getLast (List.splitOn_ne_nil 10 input)

/-- The input of these lines and this rest. -/
def joined (lines : List (List UInt8)) (rest : List UInt8) : List UInt8 :=
  lines.flatMap (· ++ [10]) ++ rest

theorem joined_append (lines : List (List UInt8)) (rest more : List UInt8) :
    joined lines rest ++ more = joined lines (rest ++ more) :=
  List.append_assoc ..

theorem joined_cons (line : List UInt8) (lines : List (List UInt8)) (rest : List UInt8) :
    joined (line :: lines) rest = line ++ 10 :: joined lines rest := by
  simp [joined]

theorem splitOn_eq (input : List UInt8) : input.splitOn 10 = lines input ++ [rest input] :=
  (List.dropLast_concat_getLast (List.splitOn_ne_nil 10 input)).symm

theorem not_mem_lines (input : List UInt8) : ∀ line ∈ lines input, 10 ∉ line :=
  fun _ h => not_mem_of_mem_splitOn (List.mem_of_mem_dropLast h)

theorem not_mem_rest (input : List UInt8) : 10 ∉ rest input :=
  not_mem_of_mem_splitOn (List.getLast_mem _)

/-- Cutting goes on behind lines. -/
theorem lines_joined {front : List (List UInt8)} (each : ∀ line ∈ front, 10 ∉ line)
    (input : List UInt8) :
    lines (joined front input) = front ++ lines input ∧ rest (joined front input) = rest input := by
  have parts : (joined front input).splitOn 10 = front ++ input.splitOn 10 := by
    induction front with
    | nil => rfl
    | cons line front ih =>
      rw [List.forall_mem_cons] at each
      rw [joined_cons, List.splitOn_append_cons_self_of_not_mem each.1, ih each.2]
      rfl
  rw [splitOn_eq, splitOn_eq, ← List.append_assoc] at parts
  exact ⟨List.append_inj_left' parts rfl, by simpa using List.append_inj_right' parts rfl⟩

/-- Lines and rest are found again. -/
theorem lines_joined_rest {lines' : List (List UInt8)} {last : List UInt8}
    (each : ∀ line ∈ lines', 10 ∉ line) (unbroken : 10 ∉ last) :
    lines (joined lines' last) = lines' ∧ rest (joined lines' last) = last := by
  have nothing : lines last = [] ∧ rest last = last := by
    simp [lines, rest, List.splitOn_eq_singleton unbroken]
  obtain ⟨same, sameRest⟩ := lines_joined each last
  rw [same, sameRest, nothing.1, nothing.2, List.append_nil]
  exact ⟨rfl, rfl⟩

theorem intercalate_concat (lines : List (List UInt8)) (rest : List UInt8) :
    [10].intercalate (lines ++ [rest]) = joined lines rest := by
  induction lines with
  | nil => simp [joined]
  | cons line lines ih =>
    rw [List.cons_append, List.intercalate_cons_of_ne_nil (by simp), ih, joined_cons]
    simp

theorem joined_lines (input : List UInt8) : joined (lines input) (rest input) = input := by
  rw [← intercalate_concat, ← splitOn_eq]
  exact List.intercalate_splitOn 10

end Session

namespace Routine

open Session (joined)

/-! ## The answer to a line -/

/-- What is echoed of a line: all its printable bytes. -/
def shown (line : List UInt8) : Text := Text.ofBytes (line.filter Console.isPrintable)

/-- What is kept of a line. -/
def kept (line : List UInt8) : Text := (shown line).take 32

/-- The routine of the first command with the name of the piece, as far as names count. -/
def selected? (piece : Text) : Option Routine :=
  (commands.find? fun c => Text.clip c.1 8 = Text.clip piece 8).map (·.2)

/-- What a line is answered with, if there is a piece in what is kept of it. -/
def answer (line : List UInt8) : Text :=
  match (Text.pieces (· = ' ') (kept line)).head? with
  | none => []
  | some piece =>
    match selected? piece with
    | some routine => routine.reply ⟨⟨Text.afterFirst ' ' (kept line)⟩, ' '⟩
    | none => Reply.unknown piece

/-- The line runs `exit`. -/
def runsExit (line : List UInt8) : Bool :=
  (Text.pieces (· = ' ') (kept line)).head?.bind selected? == some .exit

/-- All that is printed for a line. -/
def block (line : List UInt8) : Text := shown line ++ ['\r', '\n'] ++ answer line ++ promptText

/-! ## What the console does with a line -/

/-- What is printed for an event. -/
def said (e : Event Routine) : Text := (respond false e).2

theorem replay_respond_snd (quitting : Bool) (events : List (Event Routine)) :
    (Event.replay respond quitting events).2 = events.flatMap said := by
  induction events generalizing quitting with
  | nil => rfl
  | cons e events ih =>
    have same : (respond quitting e).2 = said e := by cases e <;> rfl
    show (respond quitting e).2 ++ (Event.replay respond (respond quitting e).1 events).2 = _
    rw [ih, same, List.flatMap_cons]

/-- What the console of the session has heard of. -/
def listener : Listener 32 8 Routine where
  settings := { newline := 10, delimiter := 32, echo := true }
  commands := commands
  fallback := some .unknown
  afterLine := some .prompt

theorem console_listener : listener.console = console := rfl

theorem selected?_eq (piece : Text) : selected? piece = (listener.select? piece).map (·.1.2) := by
  have places : commands = commands.zipIdx.map Prod.fst := (List.zipIdx_map_fst 0 commands).symm
  unfold selected? Listener.select?
  rw [places, List.find?_map, Option.map_map]
  rfl

/-- A piece is handed to the routine it selects, and else is not known. -/
theorem dispatch_eq (piece : Text) (arguments : Arguments) :
    (console.dispatch piece arguments).flatMap said =
        (match selected? piece with
        | some routine => routine.reply arguments
        | none => Reply.unknown piece) ∧
      (console.dispatch piece arguments).any isExit = (selected? piece == some .exit) := by
  rw [← console_listener, Listener.dispatch_console, selected?_eq]
  rcases listener.select? piece with _ | ⟨⟨name, routine⟩, i⟩
  · exact ⟨List.append_nil _, rfl⟩
  · exact ⟨List.append_nil _, Bool.or_false _⟩

/-- What runs on the first piece that is kept of a line. -/
def selection (line : List UInt8) : List (Event Routine) :=
  match (Text.pieces (· = ' ') (kept line)).head? with
  | none => []
  | some piece => console.dispatch piece ⟨⟨Text.afterFirst ' ' (kept line)⟩, ' '⟩

theorem said_selection (line : List UInt8) : (selection line).flatMap said = answer line := by
  unfold selection answer
  rcases (Text.pieces (· = ' ') (kept line)).head? with _ | piece
  · rfl
  · exact (dispatch_eq piece _).1

theorem any_selection (line : List UInt8) : (selection line).any isExit = runsExit line := by
  unfold selection runsExit
  rcases (Text.pieces (· = ' ') (kept line)).head? with _ | piece
  · rfl
  · exact (dispatch_eq piece _).2

theorem calls_eq (line : List UInt8) :
    console.calls (Console.textOf 32 line) = selection line ++ [.finished .prompt] := by
  have text : Console.textOf 32 line = kept line := Text.ofBytes_take ..
  have delimiter : console.settings.delimiterChar = ' ' := rfl
  unfold Console.calls selection
  simp only [text, delimiter, Cursor.next_eq_pieces]
  rcases (Text.pieces (· = ' ') (kept line)).head? with _ | piece
  · rfl
  · rfl

theorem said_echoes (bytes : List UInt8) : (console.echoes bytes).flatMap said = shown bytes := by
  show ((bytes.filter Console.isPrintable).map Event.byte).flatMap said = _
  rw [List.flatMap_map]
  exact List.map_eq_flatMap.symm

theorem any_echoes (bytes : List UInt8) : (console.echoes bytes).any isExit = false := by
  show ((bytes.filter Console.isPrintable).map Event.byte).any isExit = false
  simp [isExit]

/-- The events of a line. -/
def events (line : List UInt8) : List (Event Routine) :=
  console.echoes line ++ [.lineBreak] ++ (selection line ++ [.finished .prompt])

theorem said_events (line : List UInt8) : (events line).flatMap said = block line := by
  unfold events block
  rw [List.flatMap_append, List.flatMap_append, List.flatMap_append, said_echoes, said_selection,
    ← List.append_assoc]
  rfl

theorem any_events (line : List UInt8) : (events line).any isExit = runsExit line := by
  unfold events
  rw [List.any_append, List.any_append, List.any_append, any_echoes, any_selection]
  simp [isExit]

/-! ## Lines one after the other -/

/-- Every line starts on the console as it was at first. -/
theorem receiveAll_joined {lines : List (List UInt8)} {rest : List UInt8}
    (each : ∀ line ∈ lines, 10 ∉ line) (last : 10 ∉ rest) :
    (console.receiveAll (joined lines rest)).events =
      lines.flatMap events ++ console.echoes rest := by
  induction lines with
  | nil => exact congrArg Outcome.events (Console.receiveAll_unfinished (c := console) last)
  | cons line lines ih =>
    rw [List.forall_mem_cons] at each
    have first : console.receiveAll (line ++ [10]) =
        { state := console, events := events line, lines := 1 } := by
      refine (Console.receiveAll_line (c := console) rfl each.1).trans ?_
      rw [calls_eq]
      rfl
    have parts : joined (line :: lines) rest = (line ++ [10]) ++ joined lines rest := by
      simp [joined]
    rw [parts, Console.receiveAll_append, first, Outcome.events_andThen, ih each.2,
      List.flatMap_cons, List.append_assoc]

theorem printed_joined {lines : List (List UInt8)} {rest : List UInt8}
    (each : ∀ line ∈ lines, 10 ∉ line) (last : 10 ∉ rest) :
    printed (joined lines rest) = lines.flatMap block ++ shown rest := by
  unfold printed
  rw [replay_respond_snd, receiveAll_joined each last, List.flatMap_append, said_echoes,
    List.flatMap_assoc]
  simp only [said_events]

theorem exits_joined {lines : List (List UInt8)} {rest : List UInt8}
    (each : ∀ line ∈ lines, 10 ∉ line) (last : 10 ∉ rest) :
    exits (joined lines rest) = lines.any runsExit := by
  unfold exits
  rw [receiveAll_joined each last, List.any_append, any_echoes, Bool.or_false, List.any_flatMap]
  simp only [any_events]

end Routine

namespace Session

/-! ## Nothing after the end -/

/-- Nothing follows a line that runs `exit`. -/
def ExitLast (lines : List (List UInt8)) (rest : List UInt8) : Prop :=
  ∀ front line back, lines = front ++ line :: back → Routine.runsExit line = true →
    back = [] ∧ rest = []

instance (lines : List (List UInt8)) (rest : List UInt8) : Decidable (ExitLast lines rest) :=
  decidable_of_iff
    (∀ t ∈ lines.tails, t.head?.any Routine.runsExit = true → t.tail = [] ∧ rest = []) <| by
      constructor
      · intro h front line back split runs
        exact h (line :: back) ((List.mem_tails ..).2 (split ▸ List.suffix_append ..)) runs
      · intro h t ht runs
        obtain ⟨front, rfl⟩ := (List.mem_tails ..).1 ht
        rcases t with _ | ⟨line, back⟩
        · cases runs
        · exact h front line back rfl runs

/-- A beginning of the input that runs `exit` is the whole input. -/
theorem nothingAfterExit {input : List UInt8} (last : ExitLast (lines input) (rest input)) :
    Routine.NothingAfterExit input := by
  intro first begins exits
  obtain ⟨more, rfl⟩ := (List.mem_inits ..).1 begins
  have parts : first ++ more = joined (lines first) (rest first ++ more) := by
    rw [← joined_append, joined_lines]
  have exits : (lines first).any Routine.runsExit = true := by
    rw [← Routine.exits_joined (not_mem_lines first) (not_mem_rest first), joined_lines]
    exact exits
  obtain ⟨line, hline, runs⟩ := List.any_eq_true.1 exits
  obtain ⟨front, back, split⟩ := List.append_of_mem hline
  obtain ⟨further, same⟩ := lines_joined (not_mem_lines first) (rest first ++ more)
  rw [parts, further, same, split, List.append_assoc, List.cons_append] at last
  obtain ⟨noLines, noRest⟩ := last front line _ rfl runs
  have nothing : rest first ++ more = [] := by
    rw [← joined_lines (rest first ++ more), (List.append_eq_nil_iff.1 noLines).2, noRest]
    rfl
  rw [(List.append_eq_nil_iff.1 nothing).2, List.append_nil]

/-- Lines that do not run `exit` may change places. -/
theorem ExitLast.perm {front front' back : List (List UInt8)} {rest : List UInt8}
    (h : ExitLast (front ++ back) rest) (stays : ∀ line ∈ front, Routine.runsExit line = false)
    (perm : front.Perm front') : ExitLast (front' ++ back) rest := by
  intro before line after split runs
  have notFront : line ∉ front' := by
    intro hline
    rw [stays line (perm.mem_iff.2 hline)] at runs
    cases runs
  rcases List.append_eq_append_iff.1 split with ⟨more, rfl, inBack⟩ | ⟨more, inFront, inBack⟩
  · refine h (front ++ more) line after ?_ runs
    rw [inBack, List.append_assoc]
  · rcases more with _ | ⟨c, more⟩
    · exact h front line after (by rw [inBack, List.nil_append]) runs
    · refine absurd ?_ notFront
      rw [inFront, (List.cons.inj inBack).1]
      exact List.mem_append_right _ (List.mem_cons_self ..)

/-! ## The transcript -/

/-- On the input, and with what came of raw mode, the text is printed and the status is 0: in the even
order, and in every order that ends the loop; and every order ends it in which the reader sends all and
hangs up and the loop then takes steps enough. -/
structure Prints (rawMode : Except Text Unit) (input : List UInt8) (text : Text) : Prop where
  evenly : (complete input rawMode).1.exitStatus? = some 0 ∧ (complete input rawMode).2 = text
  ended : ∀ order, (run { unsent := input } order).1.stage = .done →
    (run { unsent := input } order).1.exitStatus? = some 0 ∧
      opening rawMode ++ (run { unsent := input } order).2 = text
  ends : ∀ first more : List Actor, input.length < first.count .reader →
    3 * input.length + 5 ≤ more.count .loop →
      (run { unsent := input } (first ++ more)).1.stage = .done

/-- What is printed from the opening to the farewell. -/
def transcript (rawMode : Except Text Unit) (lines : List (List UInt8)) (rest : List UInt8) : Text :=
  opening rawMode ++ lines.flatMap Routine.block ++ Routine.shown rest ++ farewell

theorem prints_transcript (rawMode : Except Text Unit) (input : List UInt8)
    (last : ExitLast (lines input) (rest input)) :
    Prints rawMode input (transcript rawMode (lines input) (rest input)) := by
  have ended (order : List Actor) (done : (run { unsent := input } order).1.stage = .done) :
      (run { unsent := input } order).1.exitStatus? = some 0 ∧
        opening rawMode ++ (run { unsent := input } order).2 =
          transcript rawMode (lines input) (rest input) := by
    have progress := run_progress (progress_start input) order
    have whole := progress.given_eq (nothingAfterExit last) done
    refine ⟨if_pos done, ?_⟩
    have printed : Routine.printed input =
        (lines input).flatMap Routine.block ++ Routine.shown (rest input) := by
      rw [← Routine.printed_joined (not_mem_lines input) (not_mem_rest input), joined_lines]
    have text := progress.text
    rw [whole, printed, if_pos done] at text
    unfold transcript
    rw [← List.nil_append (run { unsent := input } order).2, text]
    simp only [List.append_assoc]
  exact ⟨ended (Session.evenly input.length) (done_evenly input rawMode), ended,
    done_of_enough input⟩

/-- The session prints, after the opening, for each line its block, then the echo of the rest and the
farewell, if nothing follows a line that runs `exit`. Lines that do not run `exit` may change
places, and their blocks change places with them. The opening is the greeting and the first prompt;
only if raw mode failed a line that says so stands before them, and nothing else depends on that. -/
theorem prints_lines (rawMode : Except Text Unit) (input : List UInt8)
    (last : ExitLast (lines input) (rest input)) :
    Prints rawMode input (transcript rawMode (lines input) (rest input)) ∧
      ∀ front front' back, lines input = front ++ back →
        (∀ line ∈ front, Routine.runsExit line = false) → front.Perm front' →
          Prints rawMode (joined (front' ++ back) (rest input))
            (transcript rawMode (front' ++ back) (rest input)) := by
  refine ⟨prints_transcript rawMode input last, fun front front' back parts stays perm => ?_⟩
  have each : ∀ line ∈ front' ++ back, 10 ∉ line := by
    intro line hline
    have here : line ∈ lines input := by
      rw [parts, List.mem_append, perm.mem_iff, ← List.mem_append]
      exact hline
    exact not_mem_lines input line here
  have again := lines_joined_rest each (not_mem_rest input)
  have prints := prints_transcript rawMode (joined (front' ++ back) (rest input))
  rw [again.1, again.2] at prints
  exact prints ((parts ▸ last).perm stays perm)

/-- Two lines, one of them longer than what is kept, change places before the one that ends the
session, which is told first of all that its input is no terminal. -/
theorem prints_lines_swapped :
    let long := "echo 12345678901234567890123456789".toUTF8.toList
    let short := "lights\t on".toUTF8.toList
    let exit := "exit".toUTF8.toList
    let rawMode := Except.error "Inappropriate ioctl for device (os error 25)".toList
    let greeting := ("Raw mode unavailable (Inappropriate ioctl for device (os error 25)), input is " ++
      "line buffered\nSerial terminal started (try 'help')\n> ").toList
    let first := "echo 12345678901234567890123456789\r\n123456789012345678901234567\n> ".toList
    let second := "lights on\r\nUnknown command: 'lights'\n> ".toList
    let ending := "exit\r\n> Terminal exited...\n".toList
    Prints rawMode (joined [long, short, exit] []) (greeting ++ first ++ second ++ ending) ∧
      Prints rawMode (joined [short, long, exit] []) (greeting ++ second ++ first ++ ending) := by
  intro long short exit rawMode greeting first second ending
  let input := joined [long, short, exit] []
  have last : ExitLast (lines input) (rest input) := by decide +kernel
  have text : transcript rawMode (lines input) (rest input) =
      greeting ++ first ++ second ++ ending := by
    decide +kernel
  have swappedText : transcript rawMode ([short, long] ++ [exit]) (rest input) =
      greeting ++ second ++ first ++ ending := by
    decide +kernel
  have nothing : rest input = [] := by decide +kernel
  obtain ⟨prints, swapped⟩ := prints_lines rawMode input last
  refine ⟨text ▸ prints, ?_⟩
  have other := swapped [long, short] [short, long] [exit] (by decide +kernel) (by decide +kernel)
    (.swap ..)
  rw [swappedText, nothing] at other
  exact other

end Session

end SerialConsole
