import SerialConsole.Text.Basic
import SerialConsole.Text.Boundary
import SerialConsole.Text.Utf8
import SerialConsole.Text.Numeral
import SerialConsole.Text.Split
import SerialConsole.Text.Ranges
import SerialConsole.Text.Blank
import SerialConsole.Text.Identifier
import SerialConsole.Text.Printable
import SerialConsole.Line.Basic
import SerialConsole.Line.Cursor
import SerialConsole.Line.Arguments
import SerialConsole.Command.Basic
import SerialConsole.Command.Registry
import SerialConsole.Console.Settings
import SerialConsole.Console.Event
import SerialConsole.Console.Outcome
import SerialConsole.Console.Basic
import SerialConsole.Console.Terminal
import SerialConsole.Declaration.Token
import SerialConsole.Declaration.Literal
import SerialConsole.Declaration.Lexeme
import SerialConsole.Declaration.Fault
import SerialConsole.Declaration.Language
import SerialConsole.Declaration.Table
import SerialConsole.Declaration.Header
import SerialConsole.Declaration.Path
import SerialConsole.Declaration.Module
import SerialConsole.Session.Reply
import SerialConsole.Session.Routine
import SerialConsole.Session.Basic
import SerialConsole.Main
import SerialConsole.Proofs.Text.Ascii
import SerialConsole.Proofs.Text.Trim
import SerialConsole.Proofs.Text.Identifier
import SerialConsole.Proofs.Text.Clipping
import SerialConsole.Proofs.Text.WellFormed
import SerialConsole.Proofs.Text.Numeral
import SerialConsole.Proofs.Line.Pieces
import SerialConsole.Proofs.Line.Spaced
import SerialConsole.Proofs.Line.Conservation
import SerialConsole.Proofs.Line.Draining
import SerialConsole.Proofs.Line.Remaining
import SerialConsole.Proofs.Line.Contents
import SerialConsole.Proofs.Line.Slicing
import SerialConsole.Proofs.Command.Selection
import SerialConsole.Proofs.Command.Callable
import SerialConsole.Proofs.Command.Matching
import SerialConsole.Proofs.Command.Places
import SerialConsole.Proofs.Command.Calling
import SerialConsole.Proofs.Console.Listener
import SerialConsole.Proofs.Console.Refinement
import SerialConsole.Proofs.Console.Traffic
import SerialConsole.Proofs.Console.Reach
import SerialConsole.Proofs.Console.Lines
import SerialConsole.Proofs.Console.Called
import SerialConsole.Proofs.Console.RoundTrip
import SerialConsole.Proofs.Console.History
import SerialConsole.Proofs.Console.Truncation
import SerialConsole.Proofs.Console.Invisible
import SerialConsole.Proofs.Console.Isolation
import SerialConsole.Proofs.Console.Echo
import SerialConsole.Proofs.Console.Breaks
import SerialConsole.Proofs.Console.Standing
import SerialConsole.Proofs.Console.Accounting
import SerialConsole.Proofs.Console.Undivided
import SerialConsole.Proofs.Console.Commands
import SerialConsole.Proofs.Declaration.Grammar
import SerialConsole.Proofs.Declaration.Reading
import SerialConsole.Proofs.Declaration.Lexing
import SerialConsole.Proofs.Declaration.Normal
import SerialConsole.Proofs.Declaration.Registration
import SerialConsole.Proofs.Declaration.Rejection
import SerialConsole.Proofs.Declaration.Path
import SerialConsole.Proofs.Declaration.Header
import SerialConsole.Proofs.Session.Summing
import SerialConsole.Proofs.Session.Looping
import SerialConsole.Proofs.Session.Interleaving
import SerialConsole.Proofs.Session.Ending
import SerialConsole.Proofs.Session.Transcript
