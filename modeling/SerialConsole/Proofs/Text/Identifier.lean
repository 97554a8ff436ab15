/-
What cannot stand in an identifier. Sets of code points have nothing in common if no two of their
ranges overlap (`Ranges.not_contains_of_apart`); so there is nothing blank in an identifier, and no
digit and no punctuation starts one.
-/
import SerialConsole.Declaration.Lexeme

namespace SerialConsole

/-! ## Sets of code points -/

namespace Ranges

/-- No range of the one set overlaps a range of the other. -/
def apart (r s : Ranges) : Bool :=
  r.all fun a => s.all fun b => decide (a.2 < b.1 ∨ b.2 < a.1)

theorem exists_of_contains {r : Ranges} {n : Nat} (h : r.contains n = true) :
    ∃ a ∈ r, a.1 ≤ n ∧ n ≤ a.2 := by
  induction r with
  | nil => cases h
  | cons a r ih =>
    simp only [contains, Bool.and_eq_true, Bool.or_eq_true, decide_eq_true_eq] at h
    rcases h.2 with here | later
    · exact ⟨a, List.mem_cons_self .., h.1, here⟩
    · obtain ⟨b, hb, within⟩ := ih later
      exact ⟨b, List.mem_cons_of_mem a hb, within⟩

theorem not_contains_of_apart {r s : Ranges} (h : apart r s = true) {n : Nat}
    (inside : s.contains n = true) : r.contains n = false := by
  rw [← Bool.not_eq_true]
  intro too
  obtain ⟨a, ha, low, high⟩ := exists_of_contains too
  obtain ⟨b, hb, low', high'⟩ := exists_of_contains inside
  have := of_decide_eq_true (List.all_eq_true.1 (List.all_eq_true.1 h a ha) b hb)
  omega

end Ranges

/-! ## Characters of identifiers -/

namespace Identifier

variable {c : Char}

theorem ne_of_isContinue {d : Char} (h : isContinue c = true) (other : isContinue d = false) :
    c ≠ d := by
  rintro rfl
  rw [h] at other
  cases other

theorem not_isBlank_of_isContinue (h : isContinue c = true) : Token.isBlank c = false := by
  have shows : Text.isBlank c = false := by
    rcases Bool.or_eq_true _ _ ▸ h with start | continuation
    · exact Ranges.not_contains_of_apart (by decide +kernel) start
    · exact Ranges.not_contains_of_apart (by decide +kernel) continuation
  have left : c ≠ '\u200e' := ne_of_isContinue h (by decide +kernel)
  have right : c ≠ '\u200f' := ne_of_isContinue h (by decide +kernel)
  simp [Token.isBlank, shows, left, right]

theorem not_isDigit_of_isStart (h : isStart c = true) : c.isDigit = false := by
  have apart : Ranges.contains [(0x30, 0x39)] c.toNat = false := by
    rcases Bool.or_eq_true _ _ ▸ h with low | start
    · rw [beq_iff_eq.1 low]
      rfl
    · exact Ranges.not_contains_of_apart (by decide +kernel) start
  rw [← Bool.not_eq_true]
  intro digit
  simp only [Char.isDigit, Bool.and_eq_true, decide_eq_true_eq, ge_iff_le, UInt32.le_iff_toNat_le] at digit
  have : 0x30 ≤ c.toNat ∧ c.toNat ≤ 0x39 := digit
  simp [Ranges.contains, this] at apart

theorem not_mark_of_isStart (h : isStart c = true) : Token.marks.contains c = false := by
  have apart : Token.marks.all (!isStart ·) = true := by decide
  rw [← Bool.not_eq_true, List.contains_iff_mem]
  intro mark
  have := List.all_eq_true.1 apart c mark
  rw [h] at this
  cases this

end Identifier

end SerialConsole
