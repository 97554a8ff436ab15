/-
Numerals of 64-bit signed integers. A numeral is an optional sign and one or more ASCII digits,
with a value in range; sums that leave the range stop at its ends.
-/
import SerialConsole.Text.Basic

namespace SerialConsole.Numeral

/-! ## The range -/

/-- The least integer of 64 bits, minus two to the 63rd. -/
def least : Int := -0x8000000000000000

/-- The greatest integer of 64 bits, one less than two to the 63rd. -/
def greatest : Int := 0x7FFFFFFFFFFFFFFF

/-- The value has 64 bits. -/
def InRange (v : Int) : Prop := least ≤ v ∧ v ≤ greatest

instance (v : Int) : Decidable (InRange v) := inferInstanceAs (Decidable (_ ∧ _))

/-- The value of the range that is nearest. -/
def clamp (v : Int) : Int := max least (min greatest v)

/-- The sum, stopped at the ends of the range. -/
def saturatingAdd (v w : Int) : Int := clamp (v + w)

theorem clamp_inRange (v : Int) : InRange (clamp v) := by
  unfold InRange clamp least greatest
  omega

theorem clamp_eq_self {v : Int} (h : InRange v) : clamp v = v := by
  unfold InRange least greatest at h
  unfold clamp least greatest
  omega

/-! ## Reading and writing -/

/-- The value of one or more decimal digits. -/
def digits? (t : Text) : Option Nat :=
  if t ≠ [] ∧ t.all Char.isDigit then
    some (t.foldl (fun n c => 10 * n + (c.toNat - '0'.toNat)) 0)
  else
    none

/-- The value of a numeral, in range or not. -/
def value? : Text → Option Int
  | '+' :: t => (digits? t).map Int.ofNat
  | '-' :: t => (digits? t).map (-Int.ofNat ·)
  | t => (digits? t).map Int.ofNat

/-- The value of a numeral in range. -/
def read? (t : Text) : Option Int := (value? t).filter (InRange ·)

/-- The digits of the value, after a minus if it is negative. -/
def write (v : Int) : Text :=
  if v < 0 then '-' :: Nat.toDigits 10 v.natAbs else Nat.toDigits 10 v.natAbs

end SerialConsole.Numeral
