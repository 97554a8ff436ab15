/-
Reading on and taking the rest agree. Behind any number of arguments the rest of the line, taken
unsplit and split again, gives the arguments that reading on gives: those of the line without the
first ones. The rest starts right behind the one delimiter that ends the last argument taken
(`Arguments.split_remainder`), so nothing of it has been skipped yet.
-/
import SerialConsole.Proofs.Line.Draining

namespace SerialConsole

namespace Text

/-! ## Behind so many pieces -/

variable {d : Char} {line t : Text} {n : Nat}

/-- The text starts where the reading of so many pieces ends: with the line if there are none, and
otherwise right behind the one cut that ends the last of them. -/
inductive StartsBehind (d : Char) (line : Text) : Nat → Text → Prop
  | start : StartsBehind d line 0 line
  | behind {n : Nat} {front piece t : Text} (whole : line = front ++ piece ++ d :: t)
      (before : pieces (· = d) front = (pieces (· = d) line).take n)
      (apart : ∀ c ∈ front.getLast?, c = d)
      (last : (pieces (· = d) line)[n]? = some piece) : StartsBehind d line (n + 1) t

/-- A piece more in front. -/
theorem StartsBehind.cons {skipped token : Text} (skips : ∀ c ∈ skipped, c = d)
    (nonempty : token ≠ []) (free : d ∉ token) (h : StartsBehind d line n t) :
    StartsBehind d (skipped ++ token ++ d :: line) (n + 1) t := by
  have skips' : ∀ c ∈ skipped, decide (c = d) = true := by simpa using skips
  have free' : ∀ c ∈ token, decide (c = d) = false := by
    intro c hc
    exact decide_eq_false fun same => free (same ▸ hc)
  have more (t : Text) : pieces (· = d) (skipped ++ token ++ d :: t) = token :: pieces (· = d) t :=
    pieces_append_token skips' nonempty free' (decide_eq_true rfl) t
  cases h with
  | start =>
    refine .behind rfl ?_ (fun c hc => skips c (List.mem_of_mem_getLast? hc)) (by rw [more]; rfl)
    rw [List.take_zero, ← List.append_nil skipped, pieces_cuts_append skips']
    rfl
  | @behind n front piece _ whole before apart last =>
    have whole' : skipped ++ token ++ d :: line =
        (skipped ++ token ++ d :: front) ++ piece ++ d :: t := by
      simp only [whole, List.append_assoc, List.cons_append]
    refine .behind whole' ?_ ?_ (by rw [more]; exact last)
    · rw [more, more, before, List.take_succ_cons]
    · intro c hc
      rw [List.getLast?_append, List.getLast?_cons, Option.some_or, Option.mem_some_iff] at hc
      cases hf : front.getLast? with
      | none => rw [← hc, hf, Option.getD_none]
      | some x => rw [← hc, hf, Option.getD_some, apart x hf]

theorem StartsBehind.isSuffix (h : StartsBehind d line n t) : t <:+ line := by
  cases h with
  | start => exact List.suffix_refl line
  | @behind n front piece _ whole => exact ⟨front ++ piece ++ [d], by rw [whole]; simp⟩

end Text

namespace Arguments

/-! ## Behind so many arguments -/

/-- What is left after so many calls of `next`. -/
def after (a : Arguments) : Nat → Arguments
  | 0 => a
  | n + 1 => a.next.2.after n

variable {a : Arguments} {n : Nat}

@[simp] theorem delimiter_after : (a.after n).delimiter = a.delimiter := by
  induction n generalizing a with
  | zero => rfl
  | succ n ih => exact ih

theorem toList_next (a : Arguments) : a.next.2.toList = a.toList.drop 1 := by
  obtain ⟨c, d⟩ := a
  show (c.next [d]).2.drain [d] = (c.drain [d]).drop 1
  rcases given : c.next [d] with ⟨_ | token, later⟩
  · rw [Cursor.drain_of_next_eq_none given, Cursor.eq_of_next_eq_none given]
    exact Cursor.drain_of_next_eq_none (Cursor.next_nil [d])
  · rw [Cursor.drain_of_next_eq_some given]
    rfl

/-- Each call takes the first argument off. -/
theorem toList_after (a : Arguments) (n : Nat) : (a.after n).toList = a.toList.drop n := by
  induction n generalizing a with
  | zero => rfl
  | succ n ih => rw [after, ih, toList_next, List.drop_drop, Nat.add_comm]

theorem after_exhausted (d : Char) (n : Nat) :
    (⟨⟨[]⟩, d⟩ : Arguments).after n = ⟨⟨[]⟩, d⟩ := by
  induction n with
  | zero => rfl
  | succ n ih => exact ih

/-- Where something is left, it starts behind the arguments taken. -/
theorem startsBehind_after (line : Text) (d : Char) (n : Nat)
    (left : ((⟨.ofText line, d⟩ : Arguments).after n).cursor.rest ≠ []) :
    Text.StartsBehind d line n ((⟨.ofText line, d⟩ : Arguments).after n).cursor.rest := by
  induction n generalizing line with
  | zero => exact .start
  | succ n ih =>
    have step : (⟨.ofText line, d⟩ : Arguments).after (n + 1) =
        (⟨((Cursor.ofText line).next [d]).2, d⟩ : Arguments).after n := rfl
    rw [step] at left ⊢
    rcases given : (Cursor.ofText line).next [d] with ⟨_ | token, ⟨behind⟩⟩
    · rw [given, Cursor.eq_of_next_eq_none given, after_exhausted] at left
      exact absurd rfl left
    · rw [given] at left
      obtain ⟨nonempty, free, skipped, ending, parts, skips, ends⟩ :=
        Cursor.parts_of_next_eq_some given
      rcases ends with ⟨e, delimits, rfl⟩ | ⟨-, nothing⟩
      · obtain rfl : e = d := List.mem_singleton.1 delimits
        have whole : line = skipped ++ token ++ e :: behind := by simpa [Cursor.ofText] using parts
        rw [whole]
        exact .cons (by simpa using skips) nonempty (fun h => free e h (List.mem_singleton_self e))
          (ih behind left)
      · -- without a delimiter behind it, the argument was the last of the line
        obtain rfl : behind = [] := nothing
        rw [after_exhausted] at left
        exact absurd rfl left

/-- Behind `n` arguments, the rest of the line split again gives what is left of the list of
arguments, and so does reading on; the rest starts right behind the last argument taken. -/
theorem split_remainder (line : Text) (d : Char) (n : Nat) :
    let arguments := Text.pieces (· = d) line
    let reached := (⟨.ofText line, d⟩ : Arguments).after n
    let text := reached.remainder.1
    (text.elim [] fun t => (Cursor.ofText t).drain [d]) = arguments.drop n ∧
    Yields next reached (arguments.drop n) ⟨.ofText [], d⟩ ∧
    ∀ t, text = some t → t <:+ line ∧ Text.StartsBehind d line n t := by
  intro arguments reached text
  have delimiter : reached.delimiter = d := delimiter_after
  have all : (⟨.ofText line, d⟩ : Arguments).toList = arguments := toList_eq_pieces _
  have remaining : reached.toList = arguments.drop n := by rw [toList_after, all]
  have given : text = if reached.cursor.rest = [] then none else some reached.cursor.rest :=
    congrArg Prod.fst (Cursor.remainder_eq reached.cursor)
  refine ⟨?_, ?_, ?_⟩
  · rw [← remaining, toList, delimiter, given]
    split
    · next nothing =>
      obtain exhausted : reached.cursor = ⟨[]⟩ := congrArg Cursor.mk nothing
      rw [exhausted]
      exact (Cursor.drain_of_next_eq_none (Cursor.next_nil [d])).symm
    · rfl
  · rw [← remaining, ← delimiter]
    exact yields_iff.2 ⟨rfl, rfl⟩
  · intro t handed
    rw [given] at handed
    split at handed
    · cases handed
    · next left =>
      cases handed
      have starts := startsBehind_after line d n left
      exact ⟨starts.isSuffix, starts⟩

/-- The delimiters in front of the next argument belong to the rest. -/
example : ((⟨.ofText "a  b c".toList, ' '⟩ : Arguments).after 1).remainder.1 =
    some " b c".toList := rfl

end Arguments

end SerialConsole
