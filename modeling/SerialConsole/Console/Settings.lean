/-
What a console is told when it is made: the byte that ends a line, the byte that separates tokens,
and whether printable bytes are echoed.
-/
namespace SerialConsole

/-- How a console reads its line. -/
structure Settings where
  /-- The byte that completes a line. -/
  newline : UInt8 := 10
  /-- The byte between tokens. -/
  delimiter : UInt8 := 32
  /-- Printable bytes and line breaks are written back. -/
  echo : Bool := false
  deriving DecidableEq, Repr

namespace Settings

/-- Lines of at most 32 bytes, unless said otherwise. -/
def defaultCapacity : Nat := 32

/-- Names of at most 8 bytes, unless said otherwise. -/
def defaultNameLimit : Nat := 8

/-- The settings with another byte that ends lines. -/
def withNewline (s : Settings) (b : UInt8) : Settings := { s with newline := b }

/-- The settings with another delimiter. -/
def withDelimiter (s : Settings) (b : UInt8) : Settings := { s with delimiter := b }

/-- The settings with the echo on or off. -/
def withEcho (s : Settings) (on : Bool) : Settings := { s with echo := on }

/-- The delimiter as a character: bytes are the first 256 characters. -/
def delimiterChar (s : Settings) : Char := Char.ofUInt8 s.delimiter

end Settings

end SerialConsole
