/-
Tokens with delimiters between them. A line is written by putting runs of the delimiter before,
between and behind its tokens (`spaced`). Reading finds the first token (`next_append`) and after it
the others in order (`toList_spaced`); calls of `next`, however many, give what the line holds and
then nothing (`results_eq`).
-/
import SerialConsole.Line.Arguments
import Mathlib.Data.List.TakeWhile

namespace SerialConsole

namespace Text

/-- Tokens, each behind a run of the delimiter of the given length, and a last run behind them. -/
def spaced (d : Char) (trailing : Nat) : List (Nat × Text) → Text
  | [] => List.replicate trailing d
  | (gap, token) :: more => List.replicate gap d ++ token ++ spaced d trailing more

/-- Where every token has a delimiter in front, the line starts with a delimiter. -/
theorem head?_spaced {d : Char} {trailing : Nat} {tokens : List (Nat × Text)}
    (apart : ∀ x ∈ tokens, 0 < x.1) : ∀ c ∈ (spaced d trailing tokens).head?, c = d := by
  intro c hc
  cases tokens with
  | nil =>
    cases trailing with
    | zero => cases hc
    | succ trailing => exact (Option.some.inj hc).symm
  | cons x more =>
    obtain ⟨gap, token⟩ := x
    cases gap with
    | zero => exact absurd (apart _ (List.mem_cons_self ..)) (Nat.lt_irrefl 0)
    | succ gap => exact (Option.some.inj hc).symm

/-- The characters of the line are the delimiter and those of the tokens. -/
theorem mem_spaced {d c : Char} {trailing : Nat} {tokens : List (Nat × Text)}
    (h : c ∈ spaced d trailing tokens) : c = d ∨ ∃ x ∈ tokens, c ∈ x.2 := by
  induction tokens with
  | nil => exact .inl (List.eq_of_mem_replicate h)
  | cons x more ih =>
    rw [spaced, List.mem_append, List.mem_append] at h
    rcases h with (inGap | inToken) | inMore
    · exact .inl (List.eq_of_mem_replicate inGap)
    · exact .inr ⟨x, List.mem_cons_self .., inToken⟩
    · rcases ih inMore with same | ⟨y, hy, hc⟩
      · exact .inl same
      · exact .inr ⟨y, List.mem_cons_of_mem _ hy, hc⟩

end Text

/-! ## The next token -/

namespace Cursor

theorem dropWhile_replicate_append {d : Char} {token : Text} (gap : Nat) (nonempty : token ≠ [])
    (free : d ∉ token) (rest : Text) :
    (List.replicate gap d ++ token ++ rest).dropWhile (· ∈ [d]) = token ++ rest := by
  induction gap with
  | zero =>
    obtain ⟨c, more, rfl⟩ := List.exists_cons_of_ne_nil nonempty
    have other : c ≠ d := fun same => free (same ▸ List.mem_cons_self ..)
    exact List.dropWhile_cons_of_neg (by simpa using other)
  | succ gap ih =>
    rw [List.replicate_succ, List.cons_append, List.cons_append,
      List.dropWhile_cons_of_pos (by simp), ih]

/-- Behind delimiters, a token goes up to the next delimiter, and that one is eaten with it. -/
theorem next_append {d : Char} {token rest : Text} (gap : Nat) (nonempty : token ≠ [])
    (free : d ∉ token) (ends : ∀ c ∈ rest.head?, c = d) :
    (ofText (List.replicate gap d ++ token ++ rest)).next [d] = (some token, ofText rest.tail) := by
  have skipped : (ofText (List.replicate gap d ++ token ++ rest)).rest.dropWhile (· ∈ [d]) =
      token ++ rest := dropWhile_replicate_append gap nonempty free rest
  have uncut : ∀ x ∈ token, (!decide (x ∈ [d])) = true := by
    intro x hx
    have : x ≠ d := fun same => free (same ▸ hx)
    simpa using this
  have stops : rest.takeWhile (fun x => !decide (x ∈ [d])) = [] ∧
      rest.dropWhile (fun x => !decide (x ∈ [d])) = rest := by
    cases rest with
    | nil => exact ⟨rfl, rfl⟩
    | cons c more => simp [ends c rfl]
  rw [next_of_dropWhile_ne_nil (skipped ▸ List.append_ne_nil_of_left_ne_nil nonempty rest), skipped,
    List.takeWhile_append_of_pos uncut, List.dropWhile_append_of_pos uncut, stops.1, stops.2,
    List.append_nil]
  rfl

/-- Where there is nothing but delimiters there is no token. -/
theorem next_replicate (d : Char) (n : Nat) :
    (ofText (List.replicate n d)).next [d] = (none, ofText []) := by
  refine next_of_dropWhile_eq_nil ?_
  rw [List.dropWhile_eq_nil_iff]
  intro x hx
  simpa using List.eq_of_mem_replicate hx

/-- Where there is no token, the cursor is exhausted. -/
theorem eq_of_next_eq_none {c after : Cursor} {delimiters : List Char}
    (h : c.next delimiters = (none, after)) : after = ⟨[]⟩ := by
  rcases hs : c.rest.dropWhile (· ∈ delimiters) with _ | ⟨x, start⟩
  · rw [next_of_dropWhile_eq_nil hs] at h
    exact (congrArg Prod.snd h).symm
  · rw [next_of_dropWhile_ne_nil (hs ▸ List.cons_ne_nil x start)] at h
    cases h

end Cursor

/-! ## All tokens -/

namespace Arguments

/-- What so many calls of `next` in a row give. -/
def results (a : Arguments) : Nat → List (Option Text)
  | 0 => []
  | n + 1 => a.next.1 :: a.next.2.results n

theorem results_exhausted (d : Char) (n : Nat) :
    (⟨⟨[]⟩, d⟩ : Arguments).results n = List.replicate n none := by
  induction n with
  | zero => rfl
  | succ n ih => exact congrArg (none :: ·) ih

/-- Calls of `next` give the arguments that are left, one by one, and nothing from then on. -/
theorem results_eq (a : Arguments) (n : Nat) :
    a.results (a.toList.length + n) = a.toList.map some ++ List.replicate n none := by
  obtain ⟨c, d⟩ := a
  unfold toList
  fun_induction Cursor.drain c [d] with
  | case1 c after h =>
    obtain rfl := Cursor.eq_of_next_eq_none h
    cases n with
    | zero => rfl
    | succ n =>
      show (c.next [d]).1 :: results ⟨(c.next [d]).2, d⟩ (0 + n) = _
      rw [h, Nat.zero_add, results_exhausted]
      rfl
  | case2 c token after h ih =>
    rw [List.length_cons, Nat.succ_add]
    show (c.next [d]).1 :: results ⟨(c.next [d]).2, d⟩ _ = _
    rw [h, ih]
    rfl

/-- The arguments of a line are read back. The one delimiter behind the command has been eaten. -/
theorem toList_spaced {d : Char} {trailing : Nat} {tokens : List (Nat × Text)}
    (apart : ∀ x ∈ tokens, 0 < x.1) (plain : ∀ x ∈ tokens, x.2 ≠ [] ∧ d ∉ x.2) :
    (⟨.ofText (Text.spaced d trailing tokens).tail, d⟩ : Arguments).toList = tokens.map (·.2) := by
  unfold toList
  induction tokens with
  | nil =>
    rw [Text.spaced, List.tail_replicate]
    exact Cursor.drain_of_next_eq_none (Cursor.next_replicate d _)
  | cons x more ih =>
    obtain ⟨gap, token⟩ := x
    rw [List.forall_mem_cons] at apart plain
    obtain ⟨gap, rfl⟩ := Nat.exists_eq_add_one.2 apart.1
    have ends : ∀ c ∈ (Text.spaced d trailing more).head?, c = d := Text.head?_spaced apart.2
    have first := Cursor.next_append gap plain.1.1 plain.1.2 ends
    rw [Text.spaced, List.replicate_succ, List.cons_append, List.cons_append, List.tail_cons,
      Cursor.drain_of_next_eq_some first, ih apart.2 plain.2, List.map_cons]

end Arguments

end SerialConsole
