/-
The arguments of a command: a cursor after the command's token, with the delimiter they are split
at. Reading to the end, counting and taking the last each agree with the list of arguments
(`fold_eq_foldl`).
-/
import SerialConsole.Line.Cursor

namespace SerialConsole

/-- What is left of a command line, split at one delimiter. -/
structure Arguments where
  cursor : Cursor
  delimiter : Char
  deriving DecidableEq, Repr

namespace Arguments

/-- The next argument. -/
def next (a : Arguments) : Option Text × Arguments :=
  let (argument, cursor) := a.cursor.next [a.delimiter]
  (argument, { a with cursor })

/-- The rest of the line, unsplit. -/
def remainder (a : Arguments) : Option Text × Arguments :=
  let (text, cursor) := a.cursor.remainder
  (text, { a with cursor })

/-- The argument after `n` others; the reading stops at the first that is missing. -/
def nth (a : Arguments) : Nat → Option Text × Arguments
  | 0 => a.next
  | n + 1 =>
    match a.next with
    | (none, a) => (none, a)
    | (some _, a) => a.nth n

/-- The arguments that are left. -/
def toList (a : Arguments) : List Text := a.cursor.drain [a.delimiter]

/-- All arguments that are left, and what is left after them. -/
def collect (a : Arguments) : List Text × Arguments :=
  let (arguments, cursor) := a.cursor.collect [a.delimiter]
  (arguments, { a with cursor })

theorem length_next_lt {a after : Arguments} {argument : Text}
    (h : a.next = (some argument, after)) : after.cursor.rest.length < a.cursor.rest.length := by
  simp only [next, Prod.mk.injEq] at h
  exact Cursor.length_next_lt (Prod.ext h.1 (by rw [← h.2]))

/-- Reads every argument that is left, from first to last, into a running value. -/
def fold {σ : Type} (f : σ → Text → σ) (s : σ) (a : Arguments) : σ :=
  match _h : a.next with
  | (none, _) => s
  | (some argument, after) => after.fold f (f s argument)
termination_by a.cursor.rest.length
decreasing_by exact length_next_lt _h

/-- The number of arguments left. -/
def count (a : Arguments) : Nat := a.fold (fun n _ => n + 1) 0

/-- The last argument. -/
def last? (a : Arguments) : Option Text := a.fold (fun _ argument => some argument) none

theorem fold_eq_foldl {σ : Type} (f : σ → Text → σ) (s : σ) (a : Arguments) :
    a.fold f s = a.toList.foldl f s := by
  fun_induction fold f s a with
  | case1 s a after h =>
    simp only [next, Prod.mk.injEq] at h
    rw [toList, Cursor.drain_of_next_eq_none (Prod.ext h.1 rfl), List.foldl_nil]
  | case2 s a argument after h ih =>
    simp only [next, Prod.mk.injEq] at h
    rw [ih, toList, toList, Cursor.drain_of_next_eq_some (Prod.ext h.1 rfl), ← h.2,
      List.foldl_cons]

end Arguments

end SerialConsole
