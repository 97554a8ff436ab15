/-
The sample session on standard input and output.
-/
import SerialConsole.Session.Basic

namespace SerialConsole

/-- Prints a text at once. -/
def put (stdout : IO.FS.Stream) (t : Text) : IO Unit := do
  stdout.putStr (String.ofList t)
  stdout.flush

/-- Reads what comes until the session is over. Each byte gets a round; at the end of the input
there is one more, in which the reader hangs up. -/
partial def converse (stdin stdout : IO.FS.Stream) (s : Session) : IO Session := do
  let bytes ← stdin.read 1024
  let rounds := if bytes.isEmpty then 1 else bytes.size
  let (s, text) := Session.run { s with unsent := bytes.toList }
    ((List.replicate rounds Session.round).flatten ++ [.loop])
  put stdout text
  if s.exitStatus?.isSome then return s
  converse stdin stdout s

end SerialConsole

/-- The mode of the terminal is set by whoever starts the program; the argument, if there is one, says
why that failed. -/
def main (args : List String) : IO UInt32 := do
  let stdout ← IO.getStdout
  let rawMode := match args with
    | [] => .ok ()
    | why :: _ => .error why.toList
  SerialConsole.put stdout (SerialConsole.Session.opening rawMode)
  let s ← SerialConsole.converse (← IO.getStdin) stdout { unsent := [] }
  return (s.exitStatus?.getD 1).toUInt32
