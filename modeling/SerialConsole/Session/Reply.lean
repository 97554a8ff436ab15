/-
What the routines of the sample session print, each reply ending a line.
-/
import SerialConsole.Line.Arguments
import SerialConsole.Text.Numeral

namespace SerialConsole.Reply

/-- A reply is a text and the end of its line. -/
def line (t : Text) : Text := t ++ ['\n']

/-- The text between single quotes. -/
def quoted (t : Text) : Text := '\'' :: t ++ ['\'']

/-- Tells the state of a light from the first argument, ON or OFF in capitals or not. -/
def led (a : Arguments) : Text :=
  match a.next.1 with
  | none => line "usage: LED ON|OFF".toList
  | some state =>
    if state = "ON".toList ∨ state = "on".toList then
      line "LED on".toList
    else if state = "OFF".toList ∨ state = "off".toList then
      line "LED off".toList
    else
      line ("LED: unknown state ".toList ++ quoted state)

/-- Repeats the rest of the line. -/
def echo (a : Arguments) : Text := line (a.remainder.1.getD [])

/-- The sum of the arguments, starting from a sum so far. The first argument that is no numeral is
named instead. -/
def sum (total : Int) : List Text → Text
  | [] => line (Numeral.write total)
  | argument :: arguments =>
    match Numeral.read? argument with
    | some v => sum (Numeral.saturatingAdd total v) arguments
    | none => line ("add: ".toList ++ quoted argument ++ " is not a number".toList)

/-- Adds the arguments up. -/
def add (a : Arguments) : Text := sum 0 a.toList

/-- Lists the arguments by number. -/
def args (a : Arguments) : Text :=
  a.toList.zipIdx.flatMap fun (argument, i) =>
    line ("arg".toList ++ Nat.toDigits 10 i ++ ": ".toList ++ argument)

/-- Lists the names of commands. -/
def help (names : List Text) : Text :=
  line "Commands:".toList ++ names.flatMap fun name => line ("  ".toList ++ name)

/-- Names a command that is not known. -/
def unknown (token : Text) : Text := line ("Unknown command: ".toList ++ quoted token)

end SerialConsole.Reply
