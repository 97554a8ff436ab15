/-
The routines of the sample session and the console they are set up on. A routine answers to what
the console calls it with by printing; one of them ends the session.
-/
import SerialConsole.Console.Basic
import SerialConsole.Session.Reply

namespace SerialConsole

/-- The routines of the sample session. -/
inductive Routine
  | led
  | echo
  | add
  | args
  | help
  | exit
  /-- Runs on commands that are not known. -/
  | unknown
  /-- Runs after every line. -/
  | prompt
  deriving DecidableEq, Repr

namespace Routine

/-- The commands in the order they are added and listed. -/
def commands : List (Text × Routine) :=
  [("LED".toList, .led), ("echo".toList, .echo), ("add".toList, .add), ("args".toList, .args),
    ("help".toList, .help), ("exit".toList, .exit)]

/-- What asks for a line. -/
def promptText : Text := "> ".toList

/-- What a command prints. -/
def reply (arguments : Arguments) : Routine → Text
  | .led => Reply.led arguments
  | .echo => Reply.echo arguments
  | .add => Reply.add arguments
  | .args => Reply.args arguments
  | .help => Reply.help (commands.map (·.1))
  | .exit | .unknown | .prompt => []

/-- Whether the session is to end after the event, and the text that goes out. -/
def respond (quitting : Bool) : Event Routine → Bool × Text
  | .byte b => (quitting, [Char.ofUInt8 b])
  | .lineBreak => (quitting, ['\r', '\n'])
  | .command _ routine arguments => (quitting || routine == .exit, routine.reply arguments)
  | .unmatched _ token => (quitting, Reply.unknown token)
  | .finished _ => (quitting, promptText)

/-- The console of the session: lines of 32 bytes, names of 8, with echo. -/
def console : Console 32 8 Routine where
  settings := { newline := 10, delimiter := 32, echo := true }
  registry := commands.foldl (fun registry (name, routine) => registry.add name routine) .empty
  fallback := some .unknown
  afterLine := some .prompt

end Routine

end SerialConsole
