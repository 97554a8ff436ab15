/-
Sets of characters written as ranges of code points. A table lists its ranges in ascending order,
so looking a code point up stops at the first range that lies past it.
-/
namespace SerialConsole

/-- Closed ranges of code points, in ascending order. -/
abbrev Ranges := List (Nat × Nat)

/-- The code point lies in one of the ranges. -/
def Ranges.contains : Ranges → Nat → Bool
  | [], _ => false
  | (first, last) :: rest, n => first ≤ n && (n ≤ last || contains rest n)

end SerialConsole
