/-
Reading a line token by token. A cursor is what is left of the line. `next` skips leading
delimiters, returns the text up to the next delimiter and eats that one delimiter; the set of
delimiters is chosen at each call. A token shortens what is left (`length_next_lt`), so `drain`
ends.
-/
import SerialConsole.Text.Basic

namespace SerialConsole

/-- A position in a line: the text not read yet. -/
structure Cursor where
  rest : Text
  deriving DecidableEq, Repr

namespace Cursor

/-- The start of a line. -/
def ofText (line : Text) : Cursor := ⟨line⟩

/-- The whole line has been read. -/
def isExhausted (c : Cursor) : Bool := c.rest.isEmpty

/-- The next token, and the cursor after it. Where nothing but delimiters is left there is no token
and the cursor is exhausted. -/
def next (c : Cursor) (delimiters : List Char) : Option Text × Cursor :=
  match c.rest.dropWhile (· ∈ delimiters) with
  | [] => (none, ⟨[]⟩)
  | start@(_ :: _) =>
    (some (start.takeWhile (fun x => !decide (x ∈ delimiters))),
      ⟨(start.dropWhile (fun x => !decide (x ∈ delimiters))).tail⟩)

/-- Everything that is left, unsplit. -/
def remainder (c : Cursor) : Option Text × Cursor := c.next []

theorem next_of_dropWhile_eq_nil {c : Cursor} {delimiters : List Char}
    (h : c.rest.dropWhile (· ∈ delimiters) = []) : c.next delimiters = (none, ⟨[]⟩) := by
  simp only [next, h]

theorem next_of_dropWhile_ne_nil {c : Cursor} {delimiters : List Char}
    (h : c.rest.dropWhile (· ∈ delimiters) ≠ []) :
    c.next delimiters =
      (some ((c.rest.dropWhile (· ∈ delimiters)).takeWhile (fun x => !decide (x ∈ delimiters))),
        ⟨((c.rest.dropWhile (· ∈ delimiters)).dropWhile (fun x => !decide (x ∈ delimiters))).tail⟩) := by
  cases hs : c.rest.dropWhile (· ∈ delimiters) with
  | nil => exact absurd hs h
  | cons x start => simp only [next, hs]

@[simp] theorem next_nil (delimiters : List Char) : next ⟨[]⟩ delimiters = (none, ⟨[]⟩) := rfl

theorem remainder_eq (c : Cursor) :
    c.remainder = (if c.rest = [] then none else some c.rest, ⟨[]⟩) := by
  have all : ∀ t : Text, t.takeWhile (fun _ => true) = t ∧ t.dropWhile (fun _ => true) = [] := by
    intro t
    induction t with
    | nil => exact ⟨rfl, rfl⟩
    | cons x t ih => exact ⟨congrArg (x :: ·) ih.1, ih.2⟩
  obtain ⟨t⟩ := c
  cases t with
  | nil => rfl
  | cons x t => simp [remainder, next, all]

theorem length_next_lt {c after : Cursor} {delimiters : List Char} {token : Text}
    (h : c.next delimiters = (some token, after)) : after.rest.length < c.rest.length := by
  have skipped := (List.dropWhile_suffix (l := c.rest) (· ∈ delimiters)).length_le
  cases hs : c.rest.dropWhile (· ∈ delimiters) with
  | nil => simp [next_of_dropWhile_eq_nil hs] at h
  | cons x start =>
    have cut := (List.dropWhile_suffix (l := x :: start) (fun x => !decide (x ∈ delimiters))).length_le
    rw [next_of_dropWhile_ne_nil (by rw [hs]; exact List.cons_ne_nil x start), hs] at h
    simp only [Prod.mk.injEq] at h
    rw [hs] at skipped
    rw [← h.2]
    simp only [List.length_tail, List.length_cons] at *
    omega

/-- The tokens that are left, split at the same delimiters throughout. -/
def drain (c : Cursor) (delimiters : List Char) : List Text :=
  match _h : c.next delimiters with
  | (none, _) => []
  | (some token, after) => token :: after.drain delimiters
termination_by c.rest.length
decreasing_by exact length_next_lt _h

/-- All tokens that are left, and the cursor where there is no other. -/
def collect (c : Cursor) (delimiters : List Char) : List Text × Cursor :=
  match _h : c.next delimiters with
  | (none, after) => ([], after)
  | (some token, after) =>
    let (tokens, last) := after.collect delimiters
    (token :: tokens, last)
termination_by c.rest.length
decreasing_by exact length_next_lt _h

theorem drain_of_next_eq_none {c after : Cursor} {delimiters : List Char}
    (h : c.next delimiters = (none, after)) : c.drain delimiters = [] := by
  rw [drain]
  split <;> simp_all

theorem drain_of_next_eq_some {c after : Cursor} {delimiters : List Char} {token : Text}
    (h : c.next delimiters = (some token, after)) :
    c.drain delimiters = token :: after.drain delimiters := by
  rw [drain]
  split <;> simp_all

end Cursor

end SerialConsole
