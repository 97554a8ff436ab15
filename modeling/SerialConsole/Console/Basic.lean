/-
The console reads one byte at a time. The newline byte completes the line: its first token selects
a command, or goes to the fallback if no command answers; then the routine for finished lines runs
and the line starts anew. Any other byte is kept if it is printable and there is room, echoed if it
is printable, and ignored otherwise.
-/
import SerialConsole.Command.Registry
import SerialConsole.Console.Outcome
import SerialConsole.Console.Settings
import SerialConsole.Line.Basic

namespace SerialConsole

/-- Where the console stands between waiting for a line and having dealt with it. -/
inductive Phase
  /-- Nothing has come since the last line. -/
  | idle
  /-- Part of a line has come. -/
  | accumulating
  /-- The newline has come. -/
  | lineReady
  /-- Handlers are running. -/
  | dispatching
  deriving DecidableEq, Repr

/-- A console with lines of at most `capacity` bytes and names of at most `limit`. -/
structure Console (capacity limit : Nat) (H : Type) where
  settings : Settings
  line : Line capacity := .empty
  phase : Phase := .idle
  registry : Registry limit H := .empty
  /-- Runs on first tokens that no command answers to. -/
  fallback : Option H := none
  /-- Runs after every line. -/
  afterLine : Option H := none

namespace Console

variable {capacity limit : Nat} {H : Type}

/-- The bytes from blank to tilde. -/
def isPrintable (b : UInt8) : Bool := 0x20 ≤ b && b ≤ 0x7E

/-- A console that has read nothing. -/
def ofSettings (settings : Settings) : Console capacity limit H := { settings }

/-- Forgets the line. -/
def clear (c : Console capacity limit H) : Console capacity limit H :=
  { c with line := .empty, phase := .idle }

/-- Runs the first command that answers to the token, or else the fallback. -/
def dispatch (c : Console capacity limit H) (token : Text) (arguments : Arguments) :
    List (Event H) :=
  match c.registry.index? token with
  | some i => [.command i (c.registry.get i).handler arguments]
  | none => (c.fallback.map (Event.unmatched · token)).toList

/-- The calls that a line leads to: those of its first token, if it has one, and the routine for
finished lines. -/
def calls (c : Console capacity limit H) (line : Text) : List (Event H) :=
  let delimiter := c.settings.delimiterChar
  let dispatched :=
    match (Cursor.ofText line).next [delimiter] with
    | (none, _) => []
    | (some token, cursor) => c.dispatch token ⟨cursor, delimiter⟩
  dispatched ++ (c.afterLine.map Event.finished).toList

/-- Deals with the line as it stands, and starts anew. -/
def finish (c : Console capacity limit H) : Outcome (Console capacity limit H) H :=
  let c := { c with phase := .dispatching }
  { state := c.clear
    events := (if c.settings.echo then [.lineBreak] else []) ++ c.calls c.line.text
    lines := 1 }

/-- Takes one byte. -/
def receive (c : Console capacity limit H) (b : UInt8) : Outcome (Console capacity limit H) H :=
  if b = c.settings.newline then
    { c with phase := .lineReady }.finish
  else if isPrintable b then
    { state := { c with line := (c.line.push b).1, phase := .accumulating }
      events := if c.settings.echo then [.byte b] else [] }
  else
    { state := c }

/-- Takes bytes in turn. -/
def receiveAll (c : Console capacity limit H) : List UInt8 → Outcome (Console capacity limit H) H
  | [] => { state := c }
  | b :: bytes => (c.receive b).andThen (·.receiveAll bytes)

/-! ## One byte -/

theorem lt_of_isPrintable {b : UInt8} (h : isPrintable b = true) : b < 0x80 := by
  unfold isPrintable at h
  rw [Bool.and_eq_true, decide_eq_true_eq, decide_eq_true_eq] at h
  exact UInt8.lt_of_le_of_lt h.2 (by decide)

theorem receive_newline (c : Console capacity limit H) :
    c.receive c.settings.newline = { c with phase := .lineReady }.finish :=
  if_pos rfl

theorem receive_printable {c : Console capacity limit H} {b : UInt8}
    (other : b ≠ c.settings.newline) (printable : isPrintable b = true) :
    c.receive b =
      { state := { c with line := (c.line.push b).1, phase := .accumulating }
        events := if c.settings.echo then [.byte b] else [] } := by
  rw [receive, if_neg other, if_pos printable]

theorem receive_ignored {c : Console capacity limit H} {b : UInt8}
    (other : b ≠ c.settings.newline) (unprintable : isPrintable b = false) :
    c.receive b = { state := c } := by
  rw [receive, if_neg other, if_neg (by simp [unprintable])]

@[simp] theorem settings_receive (c : Console capacity limit H) (b : UInt8) :
    (c.receive b).state.settings = c.settings := by
  unfold receive
  split
  · rfl
  · split <;> rfl

/-! ## Several bytes -/

@[simp] theorem receiveAll_nil (c : Console capacity limit H) :
    c.receiveAll [] = { state := c } := rfl

@[simp] theorem receiveAll_cons (c : Console capacity limit H) (b : UInt8) (bytes : List UInt8) :
    c.receiveAll (b :: bytes) = (c.receive b).andThen (·.receiveAll bytes) := rfl

theorem receiveAll_append (c : Console capacity limit H) (first more : List UInt8) :
    c.receiveAll (first ++ more) = (c.receiveAll first).andThen (·.receiveAll more) := by
  induction first generalizing c with
  | nil => simp
  | cons b first ih => simp [ih, Outcome.andThen_assoc]

@[simp] theorem settings_receiveAll (c : Console capacity limit H) (bytes : List UInt8) :
    (c.receiveAll bytes).state.settings = c.settings := by
  induction bytes generalizing c with
  | nil => rfl
  | cons b bytes ih => exact (ih _).trans (c.settings_receive b)

end Console

end SerialConsole
