/-
What a console does that can be seen from outside, in the order it happens: bytes and line breaks
written back, and calls of handlers with what they are given. Handlers stand for themselves, under
a name of any type; what a handler does with a call is for `replay` to say.
-/
import SerialConsole.Line.Arguments

namespace SerialConsole

/-- One thing a console does. -/
inductive Event (H : Type)
  /-- A byte is written. -/
  | byte (b : UInt8)
  /-- A line break is written. -/
  | lineBreak
  /-- The command at a place of the registry runs on the arguments. -/
  | command (index : Nat) (handler : H) (arguments : Arguments)
  /-- No command answered to the token. -/
  | unmatched (handler : H) (token : Text)
  /-- A line has been dealt with. -/
  | finished (handler : H)
  deriving DecidableEq, Repr

namespace Event

variable {H σ ε : Type}

/-- The event writes a byte. -/
def isByte : Event H → Bool
  | .byte _ => true
  | _ => false

/-- The event runs the command at the place. -/
def isCallOf (index : Nat) : Event H → Bool
  | .command i _ _ => i == index
  | _ => false

/-- How often the command at the place runs. -/
def timesRun (index : Nat) (events : List (Event H)) : Nat := events.countP (isCallOf index)

/-- How many bytes are written. -/
def written (events : List (Event H)) : Nat := events.countP isByte

/-- What handlers with a state of their own make of the events, one after another. -/
def replay (respond : σ → Event H → σ × List ε) (s : σ) : List (Event H) → σ × List ε
  | [] => (s, [])
  | e :: events =>
    let (s, first) := respond s e
    let (s, more) := replay respond s events
    (s, first ++ more)

theorem replay_append (respond : σ → Event H → σ × List ε) (s : σ) (first more : List (Event H)) :
    replay respond s (first ++ more) =
      ((replay respond (replay respond s first).1 more).1,
        (replay respond s first).2 ++ (replay respond (replay respond s first).1 more).2) := by
  induction first generalizing s with
  | nil => rfl
  | cons e first ih => simp [replay, ih]

end Event

end SerialConsole
