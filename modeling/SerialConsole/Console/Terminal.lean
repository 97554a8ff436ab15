/-
A terminal is a console on a serial link. The link holds the bytes that have come and are not read
yet, and writes a line break as the bytes 13 and 10 or by a means of its own. Every use of a
terminal is an `Operation`; `perform` says what each does.
-/
import SerialConsole.Console.Basic

namespace SerialConsole

/-- How a link writes a line break. -/
inductive BreakStyle
  /-- As carriage return and line feed. -/
  | bytes
  /-- By a means of its own. -/
  | native
  deriving DecidableEq, Repr

/-- The bytes that wait to be read, and the way line breaks are written. -/
structure Link where
  unread : List UInt8 := []
  breakStyle : BreakStyle := .bytes
  deriving DecidableEq, Repr

/-- What the link makes of an event. -/
def BreakStyle.write {H : Type} : BreakStyle → Event H → List (Event H)
  | .bytes, .lineBreak => [.byte 13, .byte 10]
  | _, e => [e]

namespace BreakStyle

variable {H : Type}

/-- The link changes nothing about events that are not written. -/
theorem filter_write (style : BreakStyle) (events : List (Event H)) {p : Event H → Bool}
    (byte : ∀ b, p (.byte b) = false) (lineBreak : p .lineBreak = false) :
    (events.flatMap style.write).filter p = events.filter p := by
  induction events with
  | nil => rfl
  | cons e events ih =>
    have one : (style.write e).filter p = [e].filter p := by
      cases style <;> cases e <;> simp [write, byte, lineBreak]
    rw [List.flatMap_cons, List.filter_append, ih, one, ← List.filter_append, List.singleton_append]

theorem any_write (style : BreakStyle) (events : List (Event H)) {p : Event H → Bool}
    (byte : ∀ b, p (.byte b) = false) (lineBreak : p .lineBreak = false) :
    (events.flatMap style.write).any p = events.any p := by
  have same := congrArg (·.any p) (filter_write style events byte lineBreak)
  simpa only [List.any_filter, Bool.and_self] using same

end BreakStyle

/-- A console on a serial link. -/
structure Terminal (capacity limit : Nat) (H : Type) where
  console : Console capacity limit H
  link : Link := {}

/-- The uses of a terminal. -/
inductive Operation (H : Type)
  /-- Adds a command after all others. -/
  | register (name : Text) (handler : H)
  | setFallback (handler : H)
  | setAfterLine (handler : H)
  | setEcho (on : Bool)
  /-- Bytes come over the link. -/
  | feed (bytes : List UInt8)
  /-- Reads what waits on the link, at most `limit` bytes if there is a limit. -/
  | poll (limit : Option Nat)
  /-- Forgets the line. -/
  | clear
  deriving DecidableEq, Repr

namespace Terminal

variable {capacity limit : Nat} {H : Type}

/-- Reads at most `count` bytes from the front of those that wait. -/
def read (t : Terminal capacity limit H) (count : Nat) : Outcome (Terminal capacity limit H) H :=
  let outcome := t.console.receiveAll (t.link.unread.take count)
  { state := ⟨outcome.state, { t.link with unread := t.link.unread.drop count }⟩
    events := outcome.events.flatMap t.link.breakStyle.write
    lines := outcome.lines }

/-- The effect of one use. -/
def perform (t : Terminal capacity limit H) :
    Operation H → Outcome (Terminal capacity limit H) H
  | .register name handler =>
    { state := { t with console.registry := t.console.registry.add name handler } }
  | .setFallback handler => { state := { t with console.fallback := some handler } }
  | .setAfterLine handler => { state := { t with console.afterLine := some handler } }
  | .setEcho on => { state := { t with console.settings.echo := on } }
  | .feed bytes => { state := { t with link.unread := t.link.unread ++ bytes } }
  | .poll none => t.read t.link.unread.length
  | .poll (some count) => t.read count
  | .clear => { state := { t with console := t.console.clear } }

/-- The effect of several uses in turn. -/
def performAll (t : Terminal capacity limit H) :
    List (Operation H) → Outcome (Terminal capacity limit H) H
  | [] => { state := t }
  | op :: ops => (t.perform op).andThen (·.performAll ops)

@[simp] theorem performAll_nil (t : Terminal capacity limit H) :
    t.performAll [] = { state := t } := rfl

@[simp] theorem performAll_cons (t : Terminal capacity limit H) (op : Operation H)
    (ops : List (Operation H)) :
    t.performAll (op :: ops) = (t.perform op).andThen (·.performAll ops) := rfl

end Terminal

end SerialConsole
