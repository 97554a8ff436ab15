/-
Capacity cuts lines and does nothing else. Two consoles that are alike but for their capacity, of
which the second receives each line as the first has room for it, are kept in step line by line
(`Console.agree_lines`): they make the same calls, count the same lines, and have the same line
pending in the end, so what found no room in one line is not seen in the next.
-/
import SerialConsole.Proofs.Console.History
import SerialConsole.Proofs.Console.Lines

namespace SerialConsole

variable {capacity capacity' limit : Nat} {H : Type}

namespace Console

/-- Of its printable bytes the second line has those that a console of the first capacity has room
for, and a console of the second capacity has room for them. -/
structure Truncated (capacity capacity' : Nat) (line line' : List UInt8) : Prop where
  cut : line'.filter isPrintable = (line.filter isPrintable).take capacity
  fits : (line'.filter isPrintable).length ≤ capacity'

/-- The outcomes make the same calls and count the same lines, and the consoles they lead to are
alike and have the same line pending. -/
structure Agree (o : Outcome (Console capacity limit H) H)
    (p : Outcome (Console capacity' limit H) H) : Prop where
  calls : o.events.filter Event.isCall = p.events.filter Event.isCall
  lines : o.lines = p.lines
  alike : o.state.Alike p.state
  pending : o.state.line.bytes = p.state.line.bytes

theorem Agree.andThen {o : Outcome (Console capacity limit H) H}
    {p : Outcome (Console capacity' limit H) H}
    {f : Console capacity limit H → Outcome (Console capacity limit H) H}
    {g : Console capacity' limit H → Outcome (Console capacity' limit H) H} (first : Agree o p)
    (rest : Agree (f o.state) (g p.state)) : Agree (o.andThen f) (p.andThen g) where
  calls := by simp [first.calls, rest.calls]
  lines := by simp [first.lines, rest.lines]
  alike := rest.alike
  pending := rest.pending

namespace Truncated

variable {line line' : List UInt8}

theorem take_eq (h : Truncated capacity capacity' line line') :
    (line.filter isPrintable).take capacity = (line'.filter isPrintable).take capacity' := by
  rw [List.take_of_length_le h.fits, h.cut]

theorem textOf_eq (h : Truncated capacity capacity' line line') :
    textOf capacity line = textOf capacity' line' := by
  rw [textOf, textOf, h.take_eq]

end Truncated

/-! ## Lines in step -/

section Lines

variable {c : Console capacity limit H} {d : Console capacity' limit H} (alike : c.Alike d)
  (blank : c.line.bytes = []) (blank' : d.line.bytes = [])

include alike blank blank'

theorem agree_unfinished {line line' : List UInt8} (h : Truncated capacity capacity' line line')
    (others : c.settings.newline ∉ line) (others' : c.settings.newline ∉ line') :
    Agree (c.receiveAll line) (d.receiveAll line') := by
  rw [receiveAll_unfinished others, receiveAll_unfinished (alike.newline ▸ others')]
  refine ⟨?_, rfl, alike.anew .., ?_⟩
  · show (c.echoes line).filter Event.isCall = (d.echoes line').filter Event.isCall
    rw [filter_echoes _ _ fun _ => rfl, filter_echoes _ _ fun _ => rfl]
  · rw [Line.bytes_pushAll, Line.bytes_pushAll, blank, blank', List.nil_append, List.nil_append,
      h.take_eq]

theorem agree_line {line line' : List UInt8} (h : Truncated capacity capacity' line line')
    (others : c.settings.newline ∉ line) (others' : c.settings.newline ∉ line') :
    Agree (c.receiveAll (line ++ [c.settings.newline]))
      (d.receiveAll (line' ++ [c.settings.newline])) := by
  have unwritten (on : Bool) :
      (if on then [Event.lineBreak] else [] : List (Event H)).filter Event.isCall = [] := by
    cases on <;> rfl
  rw [receiveAll_line blank others, alike.newline, receiveAll_line blank' (alike.newline ▸ others')]
  refine ⟨?_, rfl, alike.anew .., rfl⟩
  simp only [List.filter_append]
  rw [filter_echoes c line fun _ => rfl, filter_echoes d line' fun _ => rfl, unwritten, unwritten,
    h.textOf_eq, alike.calls_eq]

/-- Whole lines in turn, and at the end one that is not finished. -/
theorem agree_lines {lines lines' : List (List UInt8)}
    (h : List.Forall₂ (Truncated capacity capacity') lines lines')
    (others : ∀ line ∈ lines, c.settings.newline ∉ line)
    (others' : ∀ line ∈ lines', c.settings.newline ∉ line) :
    Agree (c.receiveAll ([c.settings.newline].intercalate lines))
      (d.receiveAll ([c.settings.newline].intercalate lines')) := by
  induction h generalizing c d with
  | nil => exact ⟨rfl, rfl, alike, blank.trans blank'.symm⟩
  | @cons line line' lines lines' first rest ih =>
    rw [List.forall_mem_cons] at others others'
    -- the last line has no newline behind it; behind any other both consoles start anew
    cases rest with
    | nil =>
      rw [List.intercalate_singleton, List.intercalate_singleton]
      exact agree_unfinished alike blank blank' first others.1 others'.1
    | cons second rest =>
      have after : (c.receiveAll (line ++ [c.settings.newline])).state = c.clear := by
        rw [receiveAll_line blank others.1]
      have after' : (d.receiveAll (line' ++ [c.settings.newline])).state = d.clear := by
        rw [alike.newline, receiveAll_line blank' (alike.newline ▸ others'.1)]
      rw [List.intercalate_cons_cons, List.intercalate_cons_cons, c.receiveAll_append,
        d.receiveAll_append]
      refine (agree_line alike blank blank' first others.1 others'.1).andThen ?_
      rw [after, after']
      exact ih (alike.anew ..) rfl rfl others.2 others'.2

theorem agree_streams {bytes bytes' : List UInt8}
    (h : List.Forall₂ (Truncated capacity capacity') (bytes.splitOn c.settings.newline)
      (bytes'.splitOn c.settings.newline)) : Agree (c.receiveAll bytes) (d.receiveAll bytes') := by
  have step := agree_lines alike blank blank' h (fun _ h => not_mem_of_mem_splitOn h)
    fun _ h => not_mem_of_mem_splitOn h
  rwa [List.intercalate_splitOn, List.intercalate_splitOn] at step

end Lines

end Console

namespace Terminal

/-- Two terminals of the same setup that differ in capacity, and bytes of which, line by line and
with the line that is not finished, the second terminal reads just what the first has room for: they
make the same calls with the same tokens and arguments, complete the same number of lines, and have
the same line pending in the end. -/
theorem overflow_truncates (settings : Settings) (style : BreakStyle) (s : Setup H)
    (first second : List Traffic) :
    let t : Terminal capacity limit H := setUp settings style s []
    let u : Terminal capacity' limit H := setUp settings style s []
    List.Forall₂ (Console.Truncated capacity capacity')
        ((t.taken first).splitOn settings.newline) ((u.taken second).splitOn settings.newline) →
      let o := t.performAll (first.map Traffic.operation)
      let p := u.performAll (second.map Traffic.operation)
      o.events.filter Event.isCall = p.events.filter Event.isCall ∧ o.lines = p.lines ∧
        o.state.console.line.bytes = p.state.console.line.bytes := by
  intro t u lines o p
  have newline : t.console.settings.newline = settings.newline := by
    rw [settings_setUp]
    rfl
  have agree : Console.Agree (t.console.receiveAll (t.taken first))
      (u.console.receiveAll (u.taken second)) :=
    Console.agree_streams (alike_setUp ..) (bytes_setUp ..) (bytes_setUp ..) (newline ▸ lines)
  have intake := performAll_intake t first
  have intake' := performAll_intake u second
  refine ⟨?_, ?_, ?_⟩
  · rw [intake.events, intake'.events, BreakStyle.filter_write _ _ (fun _ => rfl) rfl,
      BreakStyle.filter_write _ _ (fun _ => rfl) rfl]
    exact agree.calls
  · exact intake.lines.trans (agree.lines.trans intake'.lines.symm)
  · rw [intake.console, intake'.console]
    exact agree.pending

/-- Lines ended by semicolons: one too long, one with nothing in it, one with a bell in it and too
long, and one that is not finished. -/
theorem overflow_truncates_cut :
    let settings : Settings := { newline := 59, delimiter := 44 }
    let s : Setup Nat :=
      { commands := [("led".toList, 0), ("ledger".toList, 1)]
        fallback := some 2
        afterLine := some 3
        echo := true }
    let t : Terminal 4 8 Nat := setUp settings .bytes s []
    let u : Terminal 6 8 Nat := setUp settings .bytes s []
    let first := [Traffic.feed ("led,on;;".toUTF8.toList ++ [7] ++ "ledger;offline".toUTF8.toList),
      .poll none]
    let second := [Traffic.feed "led,;;le".toUTF8.toList, .poll (some 3),
      .feed ([127] ++ "dg;offl".toUTF8.toList), .poll none]
    List.Forall₂ (Console.Truncated 4 6) ((t.taken first).splitOn 59) ((u.taken second).splitOn 59) ∧
      (t.performAll (first.map Traffic.operation)).events.filter Event.isCall =
        (u.performAll (second.map Traffic.operation)).events.filter Event.isCall := by
  intro settings s t u first second
  have split : (t.taken first).splitOn 59 =
      ["led,on".toUTF8.toList, [], 7 :: "ledger".toUTF8.toList, "offline".toUTF8.toList] := by
    decide +kernel
  have split' : (u.taken second).splitOn 59 =
      ["led,".toUTF8.toList, [], [108, 101, 127, 100, 103], "offl".toUTF8.toList] := by
    decide +kernel
  have lines : List.Forall₂ (Console.Truncated 4 6) ((t.taken first).splitOn 59)
      ((u.taken second).splitOn 59) := by
    rw [split, split']
    refine .cons ⟨?_, ?_⟩ (.cons ⟨?_, ?_⟩ (.cons ⟨?_, ?_⟩ (.cons ⟨?_, ?_⟩ .nil)))
    all_goals decide +kernel
  exact ⟨lines, (overflow_truncates settings .bytes s first second lines).1⟩

end Terminal

end SerialConsole
