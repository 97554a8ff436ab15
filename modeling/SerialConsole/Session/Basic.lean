/-
The sample session. A reader sends the bytes of the input on a channel, one at a time, and hangs up
after the last; meanwhile a loop takes what the channel holds, gives it to the console byte by byte,
and ends once the channel is known to be closed and everything is read, or `exit` has run. Reader
and loop take their steps in any order; `run` follows one such order.
-/
import SerialConsole.Session.Routine

namespace SerialConsole

/-- Who takes a step. -/
inductive Actor
  | reader
  | loop
  deriving DecidableEq, Repr

/-- What the loop does next. -/
inductive Stage
  /-- See whether the session is over. -/
  | test
  /-- Take a byte from the channel, or find it empty. -/
  | pump
  /-- Give a byte to the console, or find none waiting. -/
  | read
  | done
  deriving DecidableEq, Repr

/-- A session under way. -/
structure Session where
  /-- The input that is not sent yet. -/
  unsent : List UInt8
  /-- The reader has not hung up. -/
  connected : Bool := true
  /-- The bytes on the channel. -/
  channel : List UInt8 := []
  /-- The bytes taken from the channel that the console has not got yet. -/
  pending : List UInt8 := []
  /-- The loop has found that the reader hung up. -/
  closed : Bool := false
  console : Console 32 8 Routine := Routine.console
  /-- The command that ends the session has run. -/
  quitting : Bool := false
  stage : Stage := .test

namespace Session

/-! ## Texts -/

/-- What is printed first of all: why bytes do not come as they are typed, if raw mode failed. -/
def notice : Except Text Unit → Text
  | .ok () => []
  | .error why => "Raw mode unavailable (".toList ++ why ++ "), input is line buffered\n".toList

/-- What is printed before anything is read, given what came of raw mode. -/
def opening (rawMode : Except Text Unit) : Text :=
  notice rawMode ++ "Serial terminal started (try 'help')\n".toList ++ Routine.promptText

/-- What is printed at the end. -/
def farewell : Text := "Terminal exited...\n".toList

/-! ## Steps -/

/-- Nothing more can come. -/
def isClosed (s : Session) : Bool := s.closed && s.pending.isEmpty

/-- The reader sends a byte, or hangs up if there is none. -/
def send (s : Session) : Session :=
  match s.unsent with
  | b :: unsent =>
    if s.connected then { s with unsent, channel := s.channel ++ [b] } else s
  | [] => { s with connected := false }

/-- The loop goes on from where it stands; with it, what is printed. -/
def advance (s : Session) : Session × Text :=
  match s.stage with
  | .test =>
    if s.quitting || s.isClosed then ({ s with stage := .done }, farewell)
    else ({ s with stage := .pump }, [])
  | .pump =>
    match s.channel with
    | b :: channel => ({ s with channel, pending := s.pending ++ [b] }, [])
    | [] => ({ s with closed := s.closed || !s.connected, stage := .read }, [])
  | .read =>
    match s.pending with
    | b :: pending =>
      let outcome := s.console.receive b
      let (quitting, text) := Event.replay Routine.respond s.quitting outcome.events
      ({ s with pending, console := outcome.state, quitting, stage := .pump }, text)
    | [] => ({ s with stage := .test }, [])
  | .done => (s, [])

/-- One step of either. -/
def step (s : Session) : Actor → Session × Text
  | .reader => (s.send, [])
  | .loop => s.advance

/-- The steps of an order in turn, with all that is printed. -/
def run (s : Session) : List Actor → Session × Text
  | [] => (s, [])
  | actor :: actors =>
    let (s, first) := s.step actor
    let (s, more) := s.run actors
    (s, first ++ more)

/-- The status the program exits with, once the loop has ended. -/
def exitStatus? (s : Session) : Option Nat := if s.stage = .done then some 0 else none

/-! ## An even order -/

/-- One byte sent, and as many steps of the loop as it takes to deal with it. -/
def round : List Actor := .reader :: List.replicate 6 .loop

/-- A round for each byte, and one in which the reader hangs up and the loop ends. -/
def evenly (length : Nat) : List Actor := (List.replicate (length + 1) round).flatten

/-- The session on the whole input, reader and loop by turns, with all that is printed. Raw mode is
on unless it is said why not. -/
def complete (input : List UInt8) (rawMode : Except Text Unit := .ok ()) : Session × Text :=
  let (s, text) := run { unsent := input } (evenly input.length)
  (s, opening rawMode ++ text)

end Session

end SerialConsole
