/-
Numerals, and sums that stop at the ends of the range. A text is read as the value of which it is a
numeral, and only if that is in range (`read?_eq_some_iff`); what is written of a value is a numeral of
it (`spells_write`). A saturating sum is the exact sum while no sum on the way leaves the range
(`saturatingSum_of_inRange`). Otherwise what was cut off on the way may be missed later, but not by
addends of one sign: theirs is the exact sum, clamped (`saturatingSum_of_oneSided`).
-/
import SerialConsole.Text.Numeral
import Mathlib.Algebra.Order.BigOperators.Group.List
import Mathlib.Algebra.Ring.Int.Defs

namespace SerialConsole.Numeral

/-! ## Numerals -/

/-- Decimal digits, at least one, of the number. -/
structure Decimal (t : Text) (n : Nat) : Prop where
  nonempty : t ≠ []
  digits : ∀ c ∈ t, c.isDigit = true
  value : Nat.ofDigitChars 10 t 0 = n

/-- The text is a numeral of the value: decimal digits, with a sign in front or without. -/
inductive Spells : Text → Int → Prop
  | unsigned {t : Text} {n : Nat} (decimal : Decimal t n) : Spells t n
  | plus {t : Text} {n : Nat} (decimal : Decimal t n) : Spells ('+' :: t) n
  | minus {t : Text} {n : Nat} (decimal : Decimal t n) : Spells ('-' :: t) (-n)

/-- The text is a numeral of the value, and the value has 64 bits. -/
structure Denotes (t : Text) (v : Int) : Prop where
  spelled : Spells t v
  inRange : InRange v

variable {t : Text} {v : Int}

theorem digits?_eq_some_iff {n : Nat} : digits? t = some n ↔ Decimal t n := by
  unfold digits?
  constructor
  · intro h
    split at h
    · next decimal =>
      exact ⟨decimal.1, List.all_eq_true.1 decimal.2, Nat.ofDigitChars_eq_foldl.trans (Option.some.inj h)⟩
    · cases h
  · rintro ⟨nonempty, digits, rfl⟩
    rw [if_pos ⟨nonempty, List.all_eq_true.2 digits⟩, Nat.ofDigitChars_eq_foldl]

/-- What starts with a digit has no sign. -/
theorem value?_of_isDigit {c : Char} (h : c.isDigit = true) :
    value? (c :: t) = (digits? (c :: t)).map Int.ofNat := by
  unfold value?
  split
  · next same =>
    cases same
    cases h
  · next same =>
    cases same
    cases h
  · rfl

theorem value?_eq_some_iff : value? t = some v ↔ Spells t v := by
  constructor
  · intro h
    unfold value? at h
    split at h
    all_goals
      obtain ⟨n, decimal, rfl⟩ := Option.map_eq_some_iff.1 h
      rw [digits?_eq_some_iff] at decimal
    · exact .plus decimal
    · exact .minus decimal
    · exact .unsigned decimal
  · rintro (decimal | decimal | decimal)
    · obtain ⟨c, more, rfl⟩ := List.exists_cons_of_ne_nil decimal.nonempty
      rw [value?_of_isDigit (decimal.digits c (List.mem_cons_self ..)), digits?_eq_some_iff.2 decimal]
      rfl
    all_goals
      rw [value?, digits?_eq_some_iff.2 decimal]
      rfl

theorem read?_eq_some_iff : read? t = some v ↔ Denotes t v := by
  rw [read?, Option.filter_eq_some_iff, value?_eq_some_iff, decide_eq_true_iff]
  exact ⟨fun h => ⟨h.1, h.2⟩, fun h => ⟨h.spelled, h.inRange⟩⟩

theorem read?_eq_none_iff : read? t = none ↔ ∀ v, ¬ Denotes t v := by
  rw [Option.eq_none_iff_forall_ne_some]
  exact forall_congr' fun v => not_congr read?_eq_some_iff

/-- What is written of a value is a numeral of it. -/
theorem spells_write (v : Int) : Spells (write v) v := by
  have decimal (n : Nat) : Decimal (Nat.toDigits 10 n) n :=
    ⟨Nat.toDigits_ne_nil, fun _ => Nat.isDigit_of_mem_toDigits (by decide) (by decide),
      Nat.ofDigitChars_ten_toDigits⟩
  unfold write
  split
  · have numeral := Spells.minus (decimal v.natAbs)
    rwa [show -(v.natAbs : Int) = v by omega] at numeral
  · have numeral := Spells.unsigned (decimal v.natAbs)
    rwa [show (v.natAbs : Int) = v by omega] at numeral

/-! ## Saturating sums -/

/-- The sum of the values, added to a sum so far one by one and stopped each time at the ends of the
range. -/
def saturatingSum (total : Int) (values : List Int) : Int := values.foldl saturatingAdd total

/-- The values are all on the same side of zero. -/
def OneSided (values : List Int) : Prop := (∀ v ∈ values, 0 ≤ v) ∨ ∀ v ∈ values, v ≤ 0

variable {total : Int} {values : List Int}

theorem inRange_zero : InRange 0 := by decide

theorem inRange_saturatingSum (h : InRange total) : InRange (saturatingSum total values) := by
  induction values generalizing total with
  | nil => exact h
  | cons v values ih => exact ih (clamp_inRange (total + v))

/-- Sums that stay in range are exact. -/
theorem saturatingSum_of_inRange (h : ∀ n, InRange (total + (values.take n).sum)) :
    saturatingSum total values = total + values.sum := by
  induction values generalizing total with
  | nil => exact (Int.add_zero total).symm
  | cons v values ih =>
    have first : saturatingAdd total v = total + v := clamp_eq_self (by simpa using h 1)
    have later (n : Nat) : InRange (total + v + (values.take n).sum) := by
      simpa [Int.add_assoc] using h (n + 1)
    rw [saturatingSum, List.foldl_cons, first, List.sum_cons, ← Int.add_assoc]
    exact ih later

/-- What is cut off makes no difference to addends that lead further out of the range. -/
theorem clamp_clamp_add {w : Int} (h : least ≤ v ∧ 0 ≤ w ∨ v ≤ greatest ∧ w ≤ 0) :
    clamp (clamp v + w) = clamp (v + w) := by
  unfold clamp
  unfold least greatest at *
  omega

/-- Addends of one sign have the exact sum, clamped. -/
theorem saturatingSum_of_oneSided (start : InRange total) (h : OneSided values) :
    saturatingSum total values = clamp (total + values.sum) := by
  induction values generalizing total with
  | nil => simpa [saturatingSum] using (clamp_eq_self start).symm
  | cons v values ih =>
    unfold OneSided at h
    rw [List.forall_mem_cons, List.forall_mem_cons] at h
    have outward : least ≤ total + v ∧ 0 ≤ values.sum ∨ total + v ≤ greatest ∧ values.sum ≤ 0 := by
      obtain ⟨low, high⟩ := start
      rcases h with ⟨first, others⟩ | ⟨first, others⟩
      · exact .inl ⟨by omega, List.sum_nonneg others⟩
      · exact .inr ⟨by omega, by simpa using List.sum_le_card_nsmul values 0 others⟩
    calc saturatingSum total (v :: values) = saturatingSum (clamp (total + v)) values := rfl
      _ = clamp (clamp (total + v) + values.sum) :=
        ih (clamp_inRange _) (h.imp And.right And.right)
      _ = clamp (total + (v :: values).sum) := by
        rw [clamp_clamp_add outward, List.sum_cons, Int.add_assoc]

/-- What is cut off at the end of the range is missed on the way back. -/
example : saturatingSum greatest [1, -1] = greatest - 1 := rfl

end SerialConsole.Numeral
