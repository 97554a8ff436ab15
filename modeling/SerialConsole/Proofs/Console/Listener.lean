/-
A listener keeps every byte since the last newline, however many there are and of whatever kind,
and does nothing with them but echo until the newline comes. Then it takes the first printable
bytes it has room for as a line, cuts the line at the delimiter, and calls what the first piece
selects. It has the operations of a terminal, and shows itself in the same reports.
-/
import SerialConsole.Console.Terminal
import SerialConsole.Proofs.Line.Pieces
import SerialConsole.Proofs.Text.Ascii

namespace SerialConsole

/-! ## Reports -/

/-- What can be seen of an operation: what it did, how many lines it completed, and how things
stand after it. -/
structure Report (H : Type) where
  events : List (Event H)
  lines : Nat
  phase : Phase
  pending : List UInt8
  names : List Text
  settings : Settings
  unread : List UInt8

namespace Terminal

variable {capacity limit : Nat} {H : Type}

/-- A terminal that nothing has been done with. -/
def fresh (settings : Settings) (style : BreakStyle) : Terminal capacity limit H :=
  { console := .ofSettings settings, link := { breakStyle := style } }

/-- What can be seen of a terminal that an operation was done with. -/
def report (o : Outcome (Terminal capacity limit H) H) : Report H where
  events := o.events
  lines := o.lines
  phase := o.state.console.phase
  pending := o.state.console.line.bytes
  names := o.state.console.registry.names
  settings := o.state.console.settings
  unread := o.state.link.unread

/-- A report on each of several operations in turn. -/
def reports (t : Terminal capacity limit H) : List (Operation H) → List (Report H)
  | [] => []
  | op :: ops => report (t.perform op) :: (t.perform op).state.reports ops

end Terminal

/-! ## The listener -/

/-- What is known to a machine that looks at its bytes only when the newline comes. Lines have at
most `capacity` bytes, and `limit` bytes of a name count. -/
structure Listener (capacity limit : Nat) (H : Type) where
  settings : Settings
  link : Link := {}
  /-- Every byte since the last newline or clearing. -/
  heard : List UInt8 := []
  /-- Names in full, with their handlers, in the order they were added. -/
  commands : List (Text × H) := []
  fallback : Option H := none
  afterLine : Option H := none

namespace Listener

variable {capacity limit : Nat} {H : Type}

/-- A listener that has heard nothing and knows no commands. -/
def fresh (settings : Settings) (style : BreakStyle) : Listener capacity limit H :=
  { settings, link := { breakStyle := style } }

/-- The bytes of the line: the printable ones there is room for. -/
def kept (l : Listener capacity limit H) : List UInt8 :=
  (l.heard.filter Console.isPrintable).take capacity

/-- A printable byte begins the line, whether or not there is room for it. -/
def phase (l : Listener capacity limit H) : Phase :=
  if l.heard.any Console.isPrintable then .accumulating else .idle

/-- The names of the commands, as they are stored. -/
def names (l : Listener capacity limit H) : List Text := l.commands.map fun c => Text.clip c.1 limit

/-- The first command with the name of the piece, as far as names count, and its place. -/
def select? (l : Listener capacity limit H) (piece : Text) : Option ((Text × H) × Nat) :=
  l.commands.zipIdx.find? fun c => Text.clip c.1.1 limit = Text.clip piece limit

/-- The call that the first piece of a line leads to, if the line has one. -/
def dispatch (l : Listener capacity limit H) : List (Event H) :=
  let delimiter := l.settings.delimiterChar
  let line := Text.ofBytes l.kept
  match Text.pieces (· = delimiter) line with
  | [] => []
  | piece :: _ =>
    match l.select? piece with
    | some ((_, handler), i) => [.command i handler ⟨⟨Text.afterFirst delimiter line⟩, delimiter⟩]
    | none => (l.fallback.map (Event.unmatched · piece)).toList

/-- Hears one byte. -/
def hear (l : Listener capacity limit H) (b : UInt8) : Outcome (Listener capacity limit H) H :=
  if b = l.settings.newline then
    { state := { l with heard := [] }
      events := (if l.settings.echo then [.lineBreak] else []) ++ l.dispatch ++
        (l.afterLine.map Event.finished).toList
      lines := 1 }
  else
    { state := { l with heard := l.heard ++ [b] }
      events := if l.settings.echo && Console.isPrintable b then [.byte b] else [] }

/-- Hears bytes in turn. -/
def hearAll (l : Listener capacity limit H) : List UInt8 → Outcome (Listener capacity limit H) H
  | [] => { state := l }
  | b :: bytes => (l.hear b).andThen (·.hearAll bytes)

/-- Hears at most `count` bytes from the front of those that wait. -/
def listen (l : Listener capacity limit H) (count : Nat) : Outcome (Listener capacity limit H) H :=
  let outcome := l.hearAll (l.link.unread.take count)
  { state := { outcome.state with link := { l.link with unread := l.link.unread.drop count } }
    events := outcome.events.flatMap l.link.breakStyle.write
    lines := outcome.lines }

/-- The effect of one operation. -/
def perform (l : Listener capacity limit H) : Operation H → Outcome (Listener capacity limit H) H
  | .register name handler => { state := { l with commands := l.commands ++ [(name, handler)] } }
  | .setFallback handler => { state := { l with fallback := some handler } }
  | .setAfterLine handler => { state := { l with afterLine := some handler } }
  | .setEcho on => { state := { l with settings.echo := on } }
  | .feed bytes => { state := { l with link.unread := l.link.unread ++ bytes } }
  | .poll none => l.listen l.link.unread.length
  | .poll (some count) => l.listen count
  | .clear => { state := { l with heard := [] } }

/-- The effect of several operations in turn. -/
def performAll (l : Listener capacity limit H) :
    List (Operation H) → Outcome (Listener capacity limit H) H
  | [] => { state := l }
  | op :: ops => (l.perform op).andThen (·.performAll ops)

/-- What a terminal is to show where the listener came to this. -/
def report (o : Outcome (Listener capacity limit H) H) : Report H where
  events := o.events
  lines := o.lines
  phase := o.state.phase
  pending := o.state.kept
  names := o.state.names
  settings := o.state.settings
  unread := o.state.link.unread

/-- A report on each of several operations in turn. -/
def reports (l : Listener capacity limit H) : List (Operation H) → List (Report H)
  | [] => []
  | op :: ops => report (l.perform op) :: (l.perform op).state.reports ops

/-! ## Names -/

@[simp] theorem length_names (l : Listener capacity limit H) :
    l.names.length = l.commands.length :=
  List.length_map ..

theorem getElem_names (l : Listener capacity limit H) {i : Nat} (h : i < l.commands.length)
    (h' : i < l.names.length) : l.names[i] = Text.clip l.commands[i].1 limit := by
  simp [names]

/-! ## Bytes -/

theorem hear_newline (l : Listener capacity limit H) :
    l.hear l.settings.newline =
      { state := { l with heard := [] }
        events := (if l.settings.echo then [.lineBreak] else []) ++ l.dispatch ++
          (l.afterLine.map Event.finished).toList
        lines := 1 } :=
  if_pos rfl

theorem hear_of_ne {l : Listener capacity limit H} {b : UInt8} (h : b ≠ l.settings.newline) :
    l.hear b =
      { state := { l with heard := l.heard ++ [b] }
        events := if l.settings.echo && Console.isPrintable b then [.byte b] else [] } :=
  if_neg h

theorem hearAll_append (l : Listener capacity limit H) (first more : List UInt8) :
    l.hearAll (first ++ more) = (l.hearAll first).andThen (·.hearAll more) := by
  induction first generalizing l with
  | nil => simp [hearAll]
  | cons b first ih => simp [hearAll, ih, Outcome.andThen_assoc]

/-- Bytes that end no line are kept. -/
theorem hearAll_others {l : Listener capacity limit H} {bytes : List UInt8}
    (h : ∀ b ∈ bytes, b ≠ l.settings.newline) :
    (l.hearAll bytes).state = { l with heard := l.heard ++ bytes } := by
  induction bytes generalizing l with
  | nil => simp [hearAll]
  | cons b bytes ih =>
    rw [List.forall_mem_cons] at h
    rw [hearAll, Outcome.state_andThen, hear_of_ne h.1]
    refine (ih (l := { l with heard := l.heard ++ [b] }) h.2).trans ?_
    simp

end Listener

end SerialConsole
