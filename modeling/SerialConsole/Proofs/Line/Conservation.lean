/-
Nothing of a line is lost. Each call on a cursor takes its share off the front of what is left: the
delimiters it skips, the token it gives and the one delimiter that ends it. The delimiters may be
others at every call, so what one call leaves is judged anew by the next; all the same, the shares of
the calls one after another and what is left in the end are the line (`Cursor.line_conserved`).
-/
import SerialConsole.Proofs.Line.Spaced
import Mathlib.Data.List.Basic

namespace SerialConsole

namespace Cursor

/-! ## Calls in a row -/

/-- A call on a cursor. -/
inductive Call
  | next (delimiters : List Char)
  | remainder

namespace Call

/-- The delimiters of the call; where the rest is taken unsplit there are none. -/
def delimiters : Call → List Char
  | .next delimiters => delimiters
  | .remainder => []

/-- What the call gives, and the cursor after it. -/
def apply : Call → Cursor → Option Text × Cursor
  | .next delimiters, c => c.next delimiters
  | .remainder, c => c.remainder

theorem apply_eq (call : Call) (c : Cursor) : call.apply c = c.next call.delimiters := by
  cases call <;> rfl

end Call

/-- What calls in a row give. -/
def results : Cursor → List Call → List (Option Text)
  | _, [] => []
  | c, call :: calls => (call.apply c).1 :: (call.apply c).2.results calls

/-- The cursor after calls in a row. -/
def after : Cursor → List Call → Cursor
  | c, [] => c
  | c, call :: calls => (call.apply c).2.after calls

theorem results_of_exhausted (calls : List Call) : ∀ result ∈ results ⟨[]⟩ calls, result = none := by
  induction calls with
  | nil => exact List.forall_mem_nil _
  | cons call calls ih =>
    have here : call.apply ⟨[]⟩ = (none, ⟨[]⟩) := by rw [Call.apply_eq, next_nil]
    rw [results, here]
    exact List.forall_mem_cons.2 ⟨rfl, ih⟩

/-! ## The share of a call -/

/-- A call, what it gives, and the parts of the text that it takes off the front. -/
structure Share where
  call : Call
  result : Option Text
  skipped : Text
  token : Text
  ending : Text

namespace Share

/-- The parts of the share as they stand in the text. -/
def text (s : Share) : Text := s.skipped ++ s.token ++ s.ending

/-- The share is the one that its call is due, given all the text behind it. -/
structure Fair (s : Share) (behind : Text) : Prop where
  /-- Nothing but delimiters is skipped. -/
  skips : ∀ c ∈ s.skipped, c ∈ s.call.delimiters
  /-- No delimiter follows those that are skipped. -/
  stops : ∀ c ∈ (s.token ++ s.ending ++ behind).head?, c ∉ s.call.delimiters
  /-- A token goes up to the next delimiter, which goes with it, or to the end. -/
  found : ∀ token, s.result = some token → token = s.token ∧ s.token ≠ [] ∧
    (∀ c ∈ s.token, c ∉ s.call.delimiters) ∧
    ((∃ d ∈ s.call.delimiters, s.ending = [d]) ∨ s.ending = [] ∧ behind = [])
  /-- Where there is no token there is nothing more at all. -/
  missing : s.result = none → s.token = [] ∧ s.ending = [] ∧ behind = []

end Share

/-- Where there is no token there are delimiters only. -/
theorem mem_of_next_eq_none {c after : Cursor} {delimiters : List Char}
    (h : c.next delimiters = (none, after)) : ∀ x ∈ c.rest, x ∈ delimiters := by
  by_cases nothing : c.rest.dropWhile (· ∈ delimiters) = []
  · simpa [List.dropWhile_eq_nil_iff] using nothing
  · rw [next_of_dropWhile_ne_nil nothing] at h
    cases h

/-- Up to the first delimiter, that delimiter if there is one, and what is behind it. -/
theorem exists_ending (delimiters : List Char) (t : Text) :
    ∃ ending, t = t.takeWhile (fun x => !decide (x ∈ delimiters)) ++ ending ++
        (t.dropWhile (fun x => !decide (x ∈ delimiters))).tail ∧
      ((∃ d ∈ delimiters, ending = [d]) ∨
        ending = [] ∧ (t.dropWhile (fun x => !decide (x ∈ delimiters))).tail = []) := by
  have parts : t.takeWhile (fun x => !decide (x ∈ delimiters)) ++
      t.dropWhile (fun x => !decide (x ∈ delimiters)) = t := List.takeWhile_append_dropWhile
  have ends := List.head?_dropWhile_not (fun x => !decide (x ∈ delimiters)) t
  generalize t.dropWhile (fun x => !decide (x ∈ delimiters)) = rest at parts ends
  cases rest with
  | nil => exact ⟨[], by simpa using parts.symm, .inr ⟨rfl, rfl⟩⟩
  | cons d rest => exact ⟨[d], by simpa using parts.symm, .inl ⟨d, by simpa using ends, rfl⟩⟩

/-- A token has delimiters in front of it, and one behind it if the text goes on. -/
theorem parts_of_next_eq_some {c after : Cursor} {delimiters : List Char} {token : Text}
    (h : c.next delimiters = (some token, after)) :
    token ≠ [] ∧ (∀ x ∈ token, x ∉ delimiters) ∧
      ∃ skipped ending, c.rest = skipped ++ token ++ ending ++ after.rest ∧
        (∀ x ∈ skipped, x ∈ delimiters) ∧
        ((∃ d ∈ delimiters, ending = [d]) ∨ ending = [] ∧ after.rest = []) := by
  have whole : c.rest.takeWhile (· ∈ delimiters) ++ c.rest.dropWhile (· ∈ delimiters) = c.rest :=
    List.takeWhile_append_dropWhile
  have first := List.head?_dropWhile_not (· ∈ delimiters) c.rest
  by_cases nothing : c.rest.dropWhile (· ∈ delimiters) = []
  · rw [next_of_dropWhile_eq_nil nothing] at h
    cases h
  rw [next_of_dropWhile_ne_nil nothing, Prod.mk.injEq, Option.some.injEq] at h
  generalize c.rest.dropWhile (· ∈ delimiters) = start at whole first nothing h
  obtain ⟨rfl, rfl⟩ := h
  refine ⟨?_, ?_, c.rest.takeWhile (· ∈ delimiters), ?_⟩
  · obtain ⟨x, more, rfl⟩ := List.exists_cons_of_ne_nil nothing
    have free : x ∉ delimiters := by simpa using first
    simp [free]
  · intro x hx
    simpa using List.mem_takeWhile_imp hx
  · obtain ⟨ending, parts, ends⟩ := exists_ending delimiters start
    refine ⟨ending, ?_, fun x hx => by simpa using List.mem_takeWhile_imp hx, ends⟩
    rw [List.append_assoc, List.append_assoc, ← List.append_assoc (start.takeWhile _), ← parts, whole]

/-- A call takes a fair share and leaves the rest. -/
theorem exists_share (c : Cursor) (call : Call) :
    ∃ share : Share, share.call = call ∧ share.result = (call.apply c).1 ∧
      c.rest = share.text ++ (call.apply c).2.rest ∧ share.Fair (call.apply c).2.rest := by
  rcases given : call.apply c with ⟨_ | token, later⟩
  · rw [Call.apply_eq] at given
    obtain rfl := eq_of_next_eq_none given
    exact ⟨⟨call, none, c.rest, [], []⟩, rfl, rfl, by simp [Share.text],
      ⟨mem_of_next_eq_none given, nofun, nofun, fun _ => ⟨rfl, rfl, rfl⟩⟩⟩
  · rw [Call.apply_eq] at given
    obtain ⟨nonempty, free, skipped, ending, parts, skips, ends⟩ := parts_of_next_eq_some given
    refine ⟨⟨call, token, skipped, token, ending⟩, rfl, rfl, parts, skips, ?_, ?_, nofun⟩
    · intro x hx
      rw [List.append_assoc, List.head?_append_of_ne_nil _ nonempty] at hx
      exact free x (List.mem_of_mem_head? hx)
    · rintro _ ⟨⟩
      exact ⟨rfl, nonempty, free, ends⟩

/-! ## The shares of a line -/

/-- Calls in a row have shares that are what they give and take. Behind each share is what the cursor
then stands at, and given that the share is fair. -/
theorem exists_shares (c : Cursor) (calls : List Call) :
    ∃ shares : List Share, shares.map (·.call) = calls ∧ shares.map (·.result) = c.results calls ∧
      c.rest = shares.flatMap Share.text ++ (c.after calls).rest ∧
      ∀ before share behind, shares = before ++ share :: behind →
        let reached := c.after ((before ++ [share]).map (·.call))
        reached.rest = behind.flatMap Share.text ++ (c.after calls).rest ∧
          share.Fair reached.rest := by
  induction calls generalizing c with
  | nil => exact ⟨[], rfl, rfl, rfl, fun before share behind h => by cases before <;> cases h⟩
  | cons call calls ih =>
    obtain ⟨share, rfl, result, parts, fair⟩ := exists_share c call
    obtain ⟨shares, rfl, results, rest, fairs⟩ := ih (share.call.apply c).2
    -- What is behind the first share is what the later ones take and what is left after them.
    refine ⟨share :: shares, rfl, congrArg₂ List.cons result results, ?_, ?_⟩
    · rw [parts, rest, List.flatMap_cons, List.append_assoc]
      rfl
    · intro before other behind place
      cases before with
      | nil =>
        cases place
        exact ⟨rest, fair⟩
      | cons _ before =>
        cases place
        exact fairs before other behind rfl

/-- A line is the shares of any calls in a row, each with delimiters of its own, and what they leave.
After a call that gives no token the cursor is exhausted, and no later call gives one. -/
theorem line_conserved (line : Text) (calls : List Call) :
    ∃ shares : List Share, shares.map (·.call) = calls ∧
      shares.map (·.result) = (ofText line).results calls ∧
      line = shares.flatMap Share.text ++ ((ofText line).after calls).rest ∧
      ∀ before share behind, shares = before ++ share :: behind →
        share.Fair (behind.flatMap Share.text ++ ((ofText line).after calls).rest) ∧
        (share.result = none →
          let reached := (ofText line).after ((before ++ [share]).map (·.call))
          reached.isExhausted = true ∧ ∀ later, ∀ result ∈ reached.results later, result = none) := by
  obtain ⟨shares, made, results, whole, fairs⟩ := exists_shares (ofText line) calls
  refine ⟨shares, made, results, whole, fun before share behind place => ?_⟩
  obtain ⟨rest, fair⟩ := fairs before share behind place
  refine ⟨rest ▸ fair, fun missing => ?_⟩
  generalize (ofText line).after ((before ++ [share]).map (·.call)) = reached at fair
  obtain ⟨-, -, nothing⟩ := fair.missing missing
  obtain rfl : reached = ⟨[]⟩ := congrArg Cursor.mk nothing
  exact ⟨rfl, results_of_exhausted⟩

/-- Only the one delimiter behind a token goes with it; the next one is left to the next call. -/
example : (ofText "a,,b".toList).results [.next [','], .remainder, .next []] =
    [some "a".toList, some ",b".toList, none] := rfl

end Cursor

end SerialConsole
