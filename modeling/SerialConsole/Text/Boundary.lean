/-
Where a text may be cut, counted in bytes. `isBoundary` holds of the offsets at which a character
starts or the text ends, and `boundaryBelow` steps down from an offset to the nearest of them.
Cutting to a budget ends where the steps down from it end (`boundaryBelow_eq_size_clip`).
-/
import SerialConsole.Text.Basic

namespace SerialConsole.Text

/-- A character of the text starts at the byte offset, or the text ends there. -/
def isBoundary : Text → Nat → Bool
  | _, 0 => true
  | [], _ + 1 => false
  | c :: t, offset => c.utf8Size ≤ offset && isBoundary t (offset - c.utf8Size)

/-- The nearest boundary at or before the offset, found by stepping down one byte at a time. -/
def boundaryBelow (t : Text) : Nat → Nat
  | 0 => 0
  | offset + 1 => if isBoundary t (offset + 1) then offset + 1 else boundaryBelow t offset

@[simp] theorem isBoundary_zero (t : Text) : isBoundary t 0 = true := by
  cases t <;> rfl

theorem isBoundary_cons (c : Char) (t : Text) (offset : Nat) :
    isBoundary (c :: t) offset =
      (offset == 0 || (decide (c.utf8Size ≤ offset) && isBoundary t (offset - c.utf8Size))) := by
  cases offset <;> simp [isBoundary]

/-- The boundaries are the budgets that cutting uses up. -/
theorem isBoundary_iff_size_clip {t : Text} {offset : Nat} :
    isBoundary t offset = true ↔ size (clip t offset) = offset := by
  induction t generalizing offset with
  | nil => cases offset <;> simp [isBoundary]
  | cons c t ih =>
    have := c.utf8Size_pos
    rw [isBoundary_cons, clip_cons]
    by_cases h : c.utf8Size ≤ offset
    · simp only [h, decide_true, Bool.true_and, if_true, size_cons]
      have hne : (offset == 0) = false := by simp; omega
      rw [hne, Bool.false_or, ih]
      omega
    · simp only [h, decide_false, Bool.false_and, Bool.or_false, if_false, size_nil, beq_iff_eq]
      omega

theorem clip_succ_of_size_le {t : Text} {budget : Nat} (h : size (clip t (budget + 1)) ≤ budget) :
    clip t (budget + 1) = clip t budget := by
  apply List.IsPrefix.eq_of_length_le
  · exact prefix_clip (clip_isPrefix t _) h
  · exact (prefix_clip (clip_isPrefix t budget) (by have := size_clip_le t budget; omega)).length_le

theorem boundaryBelow_eq_size_clip (t : Text) (offset : Nat) :
    boundaryBelow t offset = size (clip t offset) := by
  induction offset with
  | zero =>
    have := size_clip_le t 0
    rw [boundaryBelow]
    omega
  | succ offset ih =>
    rw [boundaryBelow]
    split
    · next h => exact (isBoundary_iff_size_clip.1 h).symm
    · next h =>
      have := size_clip_le t (offset + 1)
      rw [isBoundary_iff_size_clip] at h
      rw [ih, clip_succ_of_size_le (by omega)]

end SerialConsole.Text
