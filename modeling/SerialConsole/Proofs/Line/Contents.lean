/-
What a line holds. Whatever has been pushed and cleared, it holds the first bytes since it was last
cleared, as many as there is room for, and its text is the longest beginning of them that is well
formed (`Line.holds_first_pushed`). Where the bytes of a text break off inside a character, that
character is missing, just as it is where the text is clipped (`Line.text_pushAll_encode`).
-/
import SerialConsole.Line.Basic
import SerialConsole.Proofs.Text.Clipping
import SerialConsole.Proofs.Text.WellFormed

namespace SerialConsole

namespace Line

variable {capacity : Nat}

/-! ## Pushing and clearing -/

/-- What is done to a line. -/
inductive Edit
  | push (b : UInt8)
  | clear

namespace Edit

/-- The line after it. -/
def apply : Line capacity → Edit → Line capacity
  | l, .push b => (l.push b).1
  | _, .clear => .empty

/-- The bytes pushed since the line was last cleared, given those before. -/
def pushed : List UInt8 → Edit → List UInt8
  | bytes, .push b => bytes ++ [b]
  | _, .clear => []

end Edit

/-- The line after several edits. -/
def edited (l : Line capacity) (edits : List Edit) : Line capacity := edits.foldl Edit.apply l

/-- The bytes pushed after the last of the edits that clears the line. -/
def sinceCleared (edits : List Edit) : List UInt8 := edits.foldl Edit.pushed []

/-- A line with the first of so many bytes has them after an edit too. -/
theorem bytes_apply {l : Line capacity} {pushed : List UInt8} (h : l.bytes = pushed.take capacity)
    (edit : Edit) : (edit.apply l).bytes = (edit.pushed pushed).take capacity := by
  cases edit with
  | push b =>
    show (l.push b).1.bytes = (pushed ++ [b]).take capacity
    rw [bytes_push, h, take_take_append]
  | clear => exact List.take_nil.symm

theorem bytes_edited {l : Line capacity} {pushed : List UInt8} (h : l.bytes = pushed.take capacity)
    (edits : List Edit) :
    (l.edited edits).bytes = (edits.foldl Edit.pushed pushed).take capacity := by
  induction edits generalizing l pushed with
  | nil => exact h
  | cons edit edits ih => exact ih (bytes_apply h edit)

/-! ## What is kept -/

theorem push_of_room {l : Line capacity} (room : l.bytes.length < capacity) (b : UInt8) :
    (l.push b).1.bytes = l.bytes ++ [b] ∧ (l.push b).2 = .kept := by
  constructor
  · rw [push, dif_pos room]
  · rw [receipt_push, if_pos room]

theorem push_of_full {l : Line capacity} (full : capacity ≤ l.bytes.length) (b : UInt8) :
    l.push b = (l, .dropped) :=
  dif_neg (Nat.not_lt_of_le full)

/-- After pushes and clearings the line holds the first bytes since it was last cleared, and exactly
these were kept; one more is kept while they are fewer than there is room for, and otherwise dropped
without a change. The text is the longest well-formed beginning, all of it if it is well formed. -/
theorem holds_first_pushed (capacity : Nat) (edits : List Edit) :
    let l := (empty : Line capacity).edited edits
    let pushed := sinceCleared edits
    l.bytes = pushed.take capacity ∧
    (∀ b, pushed.length < capacity → (l.push b).1.bytes = l.bytes ++ [b] ∧ (l.push b).2 = .kept) ∧
    (∀ b, capacity ≤ pushed.length → l.push b = (l, .dropped)) ∧
    Text.LongestWellFormed l.bytes (Text.encode l.text) ∧
    (Text.encode l.text = l.bytes ↔ Text.WellFormed l.bytes) := by
  intro l pushed
  have held : l.bytes = pushed.take capacity := bytes_edited List.take_nil.symm edits
  have length : l.bytes.length = min capacity pushed.length := by rw [held, List.length_take]
  refine ⟨held, fun b room => ?_, fun b full => ?_, ?_, ?_⟩
  · exact push_of_room (by omega) b
  · exact push_of_full (by omega) b
  · exact Text.longestWellFormed_decode l.bytes
  · exact Text.encode_decode_eq_iff

end Line

/-! ## Texts cut off -/

/-- A text whose bytes are cut off is read up to the last character that is whole. -/
theorem Text.decode_take_encode (t : Text) (n : Nat) :
    decode ((encode t).take n) = clip t n := by
  refine (clip_eq_iff.2 ⟨?_, ?_, fun u begins fits => ?_⟩).symm
  · have within : encode (decode ((encode t).take n)) <+: encode t :=
      (encode_decode_isPrefix _).trans (List.take_prefix n _)
    rw [← prefix_decode_iff, decode_encode] at within
    exact within
  · have short := (encode_decode_isPrefix ((encode t).take n)).length_le
    rw [length_encode, List.length_take] at short
    omega
  · rw [← decode_encode t, prefix_decode_iff] at begins
    rw [prefix_decode_iff, List.prefix_take_iff, length_encode]
    exact ⟨begins, fits⟩

/-- The bytes of a text, pushed one by one, leave as much of it as there is room for. -/
theorem Line.text_pushAll_encode (t : Text) (capacity : Nat) :
    ((empty : Line capacity).pushAll (Text.encode t)).1.text = Text.clip t capacity := by
  rw [text, bytes_pushAll, bytes_empty, List.nil_append, Text.decode_take_encode]

/-- There is room for half of the second character. -/
example : ((Line.empty : Line 2).pushAll (Text.encode "aé".toList)).1.text = "a".toList := by
  decide +kernel

end SerialConsole
