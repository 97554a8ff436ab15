/-
Cutting to a budget keeps as much as fits: the longest beginning of the text that takes no more
bytes than the budget (`clip_eq_iff`). It ends where the steps down from the budget come to the first
byte that goes on with no character (`isBoundary_iff_byte`, `stepsDown_clip`); there are three steps
at most, for no character takes more than four bytes (`clip_longest`).
-/
import SerialConsole.Text.Boundary
import SerialConsole.Proofs.Text.WellFormed

namespace SerialConsole.Text

/-! ## Boundaries -/

/-- The boundaries are the end of the text and the places of the bytes that go on with no character. -/
theorem isBoundary_iff_byte {t : Text} {offset : Nat} :
    isBoundary t offset = true ↔
      offset = size t ∨ ∃ b, (encode t)[offset]? = some b ∧ ¬ Continues b := by
  induction t generalizing offset with
  | nil => cases offset <;> simp [isBoundary]
  | cons c t ih =>
    have width := String.length_utf8EncodeChar c
    obtain ⟨a, more, form⟩ := List.exists_cons_of_ne_nil (String.utf8EncodeChar_ne_nil (c := c))
    obtain ⟨first, others⟩ := (form ▸ form_utf8EncodeChar c).continues
    rw [isBoundary_cons, encode_cons, size_cons, form]
    rw [form, List.length_cons] at width
    cases offset with
    | zero => simpa using Or.inr first
    | succ offset =>
      rw [List.cons_append, List.getElem?_cons_succ]
      rcases Nat.lt_or_ge offset more.length with inside | behind
      · -- the byte goes on with the first character
        rw [List.getElem?_append_left inside, List.getElem?_eq_getElem inside]
        have goesOn := others more[offset] (List.getElem_mem inside)
        have off : ¬ c.utf8Size ≤ offset + 1 := by omega
        have before : offset + 1 ≠ c.utf8Size + size t := by omega
        simp [off, before, goesOn]
      · rw [List.getElem?_append_right behind]
        have past : c.utf8Size ≤ offset + 1 := by omega
        have later : offset + 1 - c.utf8Size = offset - more.length := by omega
        have ends : offset + 1 = c.utf8Size + size t ↔ offset - more.length = size t := by omega
        simp [past, later, ends, ih]

/-! ## The longest beginning that fits -/

/-- The beginning of the text is the longest of those that take no more bytes than the budget. -/
structure LongestFitting (t : Text) (budget : Nat) (s : Text) : Prop where
  begins : s <+: t
  fits : size s ≤ budget
  longest : ∀ u, u <+: t → size u ≤ budget → u <+: s

theorem longestFitting_clip (t : Text) (budget : Nat) : LongestFitting t budget (clip t budget) :=
  ⟨clip_isPrefix t budget, size_clip_le t budget, fun _ => prefix_clip⟩

theorem LongestFitting.unique {t s u : Text} {budget : Nat} (hs : LongestFitting t budget s)
    (hu : LongestFitting t budget u) : s = u :=
  (hu.longest s hs.begins hs.fits).eq_of_length_le (hs.longest u hu.begins hu.fits).length_le

theorem clip_eq_iff {t s : Text} {budget : Nat} : clip t budget = s ↔ LongestFitting t budget s := by
  constructor
  · rintro rfl
    exact longestFitting_clip t budget
  · exact (longestFitting_clip t budget).unique

/-- Cutting twice is cutting to the smaller budget. -/
theorem clip_clip (t : Text) (a b : Nat) : clip (clip t a) b = clip t (min a b) := by
  refine clip_eq_iff.2 ⟨?_, ?_, ?_⟩
  · have := size_clip_le t (min a b)
    exact prefix_clip (clip_isPrefix t _) (by omega)
  · have := size_clip_le t (min a b)
    omega
  · intro u begins fits
    have within : size u ≤ a := Nat.le_trans (size_le_of_isPrefix begins) (size_clip_le t a)
    exact prefix_clip (begins.trans (clip_isPrefix t a)) (by omega)

/-- With room for the next character the beginning would not be the longest. -/
theorem lt_size_of_next {t : Text} {budget : Nat} {c : Char} {more : Text}
    (next : clip t budget ++ c :: more = t) : budget < size (clip t budget) + c.utf8Size := by
  refine Nat.lt_of_not_le fun room => ?_
  have begins : clip t budget ++ [c] <+: t := ⟨more, by simpa using next⟩
  have := (prefix_clip begins (by simpa using room)).length_le
  rw [List.length_append, List.length_singleton] at this
  omega

/-- Less than a character is left over where a text is cut. -/
theorem lt_size_clip_add_four {t : Text} {budget : Nat} (cut : clip t budget ≠ t) :
    budget < size (clip t budget) + 4 := by
  obtain ⟨rest, whole⟩ := clip_isPrefix t budget
  cases rest with
  | nil => exact absurd (by simpa using whole) cut
  | cons c more =>
    have := lt_size_of_next whole
    have small : c.utf8Size ≤ 4 := c.utf8Size_le_four
    omega

/-- The bytes of what is kept are the bytes up to where it ends. -/
theorem encode_clip (t : Text) (budget : Nat) :
    encode (clip t budget) = (encode t).take (size (clip t budget)) := by
  obtain ⟨rest, whole⟩ := clip_isPrefix t budget
  have bytes : encode t = encode (clip t budget) ++ encode rest := by
    rw [← encode_append, whole]
  rw [bytes, ← length_encode, List.take_left]

/-- A beginning is what its own size leaves. -/
theorem clip_size {s t : Text} (h : s <+: t) : clip t (size s) = s := by
  obtain ⟨more, whole⟩ := prefix_clip h (Nat.le_refl (size s))
  have short := size_clip_le t (size s)
  rw [← whole, size_append] at short
  have := length_le_size more
  obtain rfl : more = [] := List.eq_nil_of_length_eq_zero (by omega)
  rw [← whole, List.append_nil]

theorem isBoundary_of_isPrefix {s t : Text} (h : s <+: t) : isBoundary t (size s) = true :=
  isBoundary_iff_size_clip.2 (congrArg size (clip_size h))

/-! ## Stepping down to a boundary -/

/-- So many steps down, a byte each, lead from an offset to a boundary of the text. A step is taken
only where there is no boundary yet, and never below the start. -/
inductive StepsDown (t : Text) : Nat → Nat → Nat → Prop
  | stop {offset : Nat} : isBoundary t offset = true → StepsDown t offset 0 offset
  | step {offset steps stop : Nat} : isBoundary t (offset + 1) = false →
      StepsDown t offset steps stop → StepsDown t (offset + 1) (steps + 1) stop

theorem stepsDown_clip (t : Text) (offset : Nat) :
    ∃ steps, steps + size (clip t offset) = offset ∧
      StepsDown t offset steps (size (clip t offset)) := by
  induction offset with
  | zero =>
    rw [clip_zero]
    exact ⟨0, rfl, .stop (isBoundary_zero t)⟩
  | succ offset ih =>
    cases boundary : isBoundary t (offset + 1) with
    | true =>
      rw [isBoundary_iff_size_clip.1 boundary]
      exact ⟨0, Nat.zero_add _, .stop boundary⟩
    | false =>
      have below : clip t (offset + 1) = clip t offset := by
        have := size_clip_le t (offset + 1)
        have off : size (clip t (offset + 1)) ≠ offset + 1 := by
          rw [ne_eq, ← isBoundary_iff_size_clip, boundary]
          exact Bool.false_ne_true
        exact clip_succ_of_size_le (by omega)
      obtain ⟨steps, total, down⟩ := ih
      rw [below]
      exact ⟨steps + 1, by omega, .step boundary down⟩

theorem StepsDown.unique {t : Text} {offset m n stop stop' : Nat} (h : StepsDown t offset m stop)
    (h' : StepsDown t offset n stop') : m = n ∧ stop = stop' := by
  induction h generalizing n with
  | stop boundary =>
    cases h' with
    | stop => exact ⟨rfl, rfl⟩
    | step off _ =>
      rw [boundary] at off
      cases off
  | step off _ ih =>
    cases h' with
    | stop boundary =>
      rw [boundary] at off
      cases off
    | step _ down =>
      obtain ⟨rfl, rfl⟩ := ih down
      exact ⟨rfl, rfl⟩

/-- The beginning that is kept is the longest that fits. It ends at a boundary, with less than a
character of the budget left over if the text is cut; then three steps down find the boundary, or
fewer, and no step goes below the start. Cutting again goes by the smaller budget. -/
theorem clip_longest (t : Text) :
    (∀ offset, isBoundary t offset = true ↔
      offset = size t ∨ ∃ b, (encode t)[offset]? = some b ∧ ¬ Continues b) ∧
    (∀ budget,
      let kept := clip t budget
      LongestFitting t budget kept ∧ isBoundary t (size kept) = true ∧
      encode kept = (encode t).take (size kept) ∧ boundaryBelow t budget = size kept ∧
      (kept ≠ t → budget ≤ size kept + 3) ∧ (size t ≤ budget → kept = t) ∧
      (budget < size t → ∃ steps ≤ 3, ∀ n stop,
        StepsDown t budget n stop ↔ n = steps ∧ stop = size kept)) ∧
    ∀ a b, clip (clip t a) b = clip t (min a b) := by
  refine ⟨fun _ => isBoundary_iff_byte, fun budget => ?_, clip_clip t⟩
  have few (cut : clip t budget ≠ t) : budget ≤ size (clip t budget) + 3 :=
    Nat.le_of_lt_succ (lt_size_clip_add_four cut)
  refine ⟨longestFitting_clip t budget, isBoundary_of_isPrefix (clip_isPrefix t budget),
    encode_clip t budget, boundaryBelow_eq_size_clip t budget, few, clip_eq_self, fun exceeds => ?_⟩
  have cut : clip t budget ≠ t := by
    intro whole
    have := size_clip_le t budget
    rw [whole] at this
    omega
  obtain ⟨steps, total, down⟩ := stepsDown_clip t budget
  refine ⟨steps, by have := few cut; omega, fun n stop => ⟨fun h => h.unique down, ?_⟩⟩
  rintro ⟨rfl, rfl⟩
  exact down

/-- Two characters of four bytes each: a budget of seven bytes leaves three of them unused. -/
example : clip "😀😀".toList 7 = "😀".toList := rfl

end SerialConsole.Text
