/-
Tokens are pieces. Reading the next token of a line gives the first piece of the line cut at every
delimiter, empty pieces left out, and leaves what the other pieces make when they are put together
again (`next_eq_pieces`).
-/
import SerialConsole.Line.Cursor
import SerialConsole.Text.Split
import Mathlib.Data.List.TakeWhile

namespace SerialConsole

/-- Where a list is cut there is nothing left of the separator. -/
theorem not_mem_of_mem_splitOn {α : Type} [BEq α] [LawfulBEq α] {a : α} {xs piece : List α}
    (h : piece ∈ xs.splitOn a) : a ∉ piece := by
  induction xs generalizing piece with
  | nil =>
    rw [List.splitOn_nil, List.mem_singleton] at h
    exact h ▸ List.not_mem_nil
  | cons x xs ih =>
    rw [List.splitOn_cons_eq_if_modifyHead] at h
    split at h
    · rcases List.mem_cons.1 h with rfl | later
      · exact List.not_mem_nil
      · exact ih later
    · next other =>
      have other : a ≠ x := fun same => other (beq_iff_eq.2 same.symm)
      rcases hs : xs.splitOn a with _ | ⟨first, more⟩
      · exact absurd hs (List.splitOn_ne_nil a xs)
      · rw [hs] at h ih
        rcases List.mem_cons.1 h with rfl | later
        · exact List.not_mem_cons_of_ne_of_not_mem other (ih (List.mem_cons_self ..))
        · exact ih (List.mem_cons_of_mem _ later)

namespace Text

/-! ## Cutting a text -/

/-- The first piece goes up to the first cut; the others are those of the text behind it. -/
theorem split_eq (cuts : Char → Bool) (t : Text) :
    split cuts t = t.takeWhile (fun x => !cuts x) ::
      match t.dropWhile (fun x => !cuts x) with
      | [] => []
      | _ :: more => split cuts more := by
  induction t with
  | nil => rfl
  | cons c t ih =>
    by_cases h : cuts c = true
    · simp [split, h]
    · rw [split, if_neg h, ih]
      simp [h]

theorem dropWhile_split (cuts : Char → Bool) (t : Text) :
    (split cuts t).dropWhile (· = []) =
      match t.dropWhile cuts with
      | [] => []
      | start@(_ :: _) => split cuts start := by
  induction t with
  | nil => rfl
  | cons c t ih =>
    by_cases h : cuts c = true
    · rw [split, if_pos h, List.dropWhile_cons_of_pos (by simp), ih, List.dropWhile_cons_of_pos h]
    · have := split_eq cuts (c :: t)
      rw [List.takeWhile_cons_of_pos (by simp [h])] at this
      rw [List.dropWhile_cons_of_neg h]
      show _ = split cuts (c :: t)
      rw [this, List.dropWhile_cons_of_neg (by simp)]

theorem head?_pieces (cuts : Char → Bool) (t : Text) :
    (pieces cuts t).head? = ((split cuts t).dropWhile (· = [])).head? := by
  rw [pieces, List.head?_filter, List.find?_eq_head?_dropWhile_not]
  simp

/-- The first piece starts behind the cuts in front, and is not empty. -/
theorem of_head?_pieces {cuts : Char → Bool} {t piece : Text}
    (h : (pieces cuts t).head? = some piece) :
    piece ≠ [] ∧ piece = (t.dropWhile cuts).takeWhile (fun x => !cuts x) := by
  constructor
  · simpa using (List.mem_filter.1 (List.mem_of_head? h)).2
  · rw [head?_pieces, dropWhile_split] at h
    revert h
    rcases t.dropWhile cuts with _ | ⟨c, start⟩
    · exact nofun
    · simp only [split_eq _ (c :: start), List.head?_cons, Option.some.injEq]
      exact Eq.symm

/-- A text without cuts is one piece. -/
theorem pieces_of_forall {cuts : Char → Bool} {t : Text} (nonempty : t ≠ [])
    (h : ∀ c ∈ t, cuts c = false) : pieces cuts t = [t] := by
  have whole : t.takeWhile (fun x => !cuts x) = t := by
    simpa [List.takeWhile_eq_self_iff] using h
  have nothing : t.dropWhile (fun x => !cuts x) = [] := by
    simpa [List.dropWhile_eq_nil_iff] using h
  rw [pieces, split_eq, whole, nothing]
  simp [nonempty]

theorem pieces_of_not_mem {d : Char} {t : Text} (nonempty : t ≠ []) (free : d ∉ t) :
    pieces (· = d) t = [t] :=
  pieces_of_forall nonempty fun _ hc => decide_eq_false fun same => free (same ▸ hc)

theorem split_eq_splitOnP (cuts : Char → Bool) (t : Text) : split cuts t = t.splitOnP cuts := by
  induction t with
  | nil => rfl
  | cons c t ih =>
    rw [split, ih, List.splitOnP_cons_eq_if_modifyHead]
    split
    · rfl
    · rcases h : t.splitOnP cuts with _ | ⟨piece, more⟩
      · exact absurd h (List.splitOnP_ne_nil cuts t)
      · rfl

/-- Put together again, the pieces are the text. -/
theorem intercalate_split (d : Char) (t : Text) : [d].intercalate (split (· = d) t) = t := by
  rw [split_eq_splitOnP]
  exact List.intercalate_splitOn d

/-- Pieces that are put together are found again. -/
theorem split_intercalate (d : Char) {pieces : List Text} (nonempty : pieces ≠ [])
    (free : ∀ piece ∈ pieces, d ∉ piece) : split (· = d) ([d].intercalate pieces) = pieces := by
  rw [split_eq_splitOnP]
  exact List.splitOn_intercalate d free nonempty

theorem not_mem_of_mem_split {d : Char} {t piece : Text} (h : piece ∈ split (· = d) t) :
    d ∉ piece := by
  rw [split_eq_splitOnP] at h
  exact not_mem_of_mem_splitOn h

/-- What the pieces after the first that is not empty make, put together again: the text behind
that piece and the one delimiter that ends it. -/
def afterFirst (d : Char) (t : Text) : Text :=
  [d].intercalate ((split (· = d) t).dropWhile (· = [])).tail

/-- Found by reading along: past the delimiters in front, past the piece, past one delimiter. -/
theorem afterFirst_eq (d : Char) (t : Text) :
    afterFirst d t = ((t.dropWhile (· = d)).dropWhile (fun x => !decide (x = d))).tail := by
  rw [afterFirst, dropWhile_split]
  rcases t.dropWhile (· = d) with _ | ⟨c, start⟩
  · rfl
  · simp only [split_eq _ (c :: start), List.tail_cons]
    rcases (c :: start).dropWhile (fun x => !decide (x = d)) with _ | ⟨_, more⟩
    · rfl
    · exact intercalate_split d more

theorem afterFirst_of_not_mem {d : Char} {t : Text} (free : d ∉ t) : afterFirst d t = [] := by
  have kept : ∀ x ∈ t.dropWhile (· = d), (!decide (x = d)) = true := by
    intro x hx
    have other : x ≠ d := fun same => free (same ▸ (List.dropWhile_suffix _).mem hx)
    simpa using other
  rw [afterFirst_eq, List.dropWhile_eq_nil_iff.2 kept, List.tail_nil]

end Text

namespace Cursor

theorem next_eq_pieces (d : Char) (line : Text) :
    (ofText line).next [d] = ((Text.pieces (· = d) line).head?, ⟨Text.afterFirst d line⟩) := by
  have single : (fun x => decide (x ∈ [d])) = (fun x => decide (x = d)) := by
    funext x
    simp
  rw [Text.head?_pieces, Text.dropWhile_split, Text.afterFirst_eq]
  unfold next ofText
  rw [single]
  rcases line.dropWhile (· = d) with _ | ⟨c, start⟩
  · rfl
  · simp [Text.split_eq _ (c :: start)]

end Cursor

end SerialConsole
