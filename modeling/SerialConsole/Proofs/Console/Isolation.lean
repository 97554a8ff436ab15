/-
No line has a part in another. When a line has ended and nothing has come since but bytes that are
ignored, what a listener has heard cannot be seen in its console (`Listener.console_of_ignored`), so
a terminal is again what it was when it had only been set up (`Terminal.state_of_endLine`). Two
histories of the same setup, whatever lines they had, go on alike.
-/
import SerialConsole.Proofs.Console.History
import SerialConsole.Proofs.Console.Invisible

namespace SerialConsole

/-! ## The end of a line -/

namespace Stroke

/-- The stroke ends a line: a newline, or a clearing. -/
def isEnd (newline : UInt8) : Stroke → Bool
  | .byte b _ => b == newline
  | .clear => true

/-- The stroke is a byte that is neither printable nor the newline. -/
def isIgnored (newline : UInt8) : Stroke → Bool
  | .byte b _ => !Console.isVisible newline b
  | .clear => false

/-- The strokes end a line, and behind its end there are at most bytes that are ignored. -/
def EndLine (newline : UInt8) (strokes : List Stroke) : Prop :=
  ∃ before last ignored, strokes = before ++ last :: ignored ∧ last.isEnd newline = true ∧
    ∀ s ∈ ignored, s.isIgnored newline = true

theorem heard_ignored {newline : UInt8} {before : List UInt8} {ignored : List Stroke}
    (h : ∀ s ∈ ignored, s.isIgnored newline = true)
    (unprintable : ∀ b ∈ before, Console.isPrintable b = false) :
    ∀ b ∈ heard newline before ignored, Console.isPrintable b = false := by
  induction ignored generalizing before with
  | nil => exact unprintable
  | cons s ignored ih =>
    rw [List.forall_mem_cons] at h
    cases s with
    | clear => cases h.1
    | byte b echo =>
      obtain ⟨other, unshown⟩ := Console.isVisible_eq_false.1 (by simpa [isIgnored] using h.1)
      refine ih h.2 ?_
      rw [if_neg other]
      intro c hc
      rcases List.mem_append.1 hc with earlier | now
      · exact unprintable c earlier
      · rw [List.mem_singleton.1 now]
        exact unshown

/-- Nothing printable has been heard since the end of the line. -/
theorem EndLine.heard {newline : UInt8} {strokes : List Stroke} (h : EndLine newline strokes)
    (before : List UInt8) : ∀ b ∈ Stroke.heard newline before strokes, Console.isPrintable b = false := by
  obtain ⟨front, last, ignored, rfl, ends, quiet⟩ := h
  rw [heard_append]
  -- whatever was heard before it, the end of the line makes it nothing
  have anew : Stroke.heard newline (Stroke.heard newline before front) (last :: ignored) =
      Stroke.heard newline [] ignored := by
    cases last with
    | clear => rfl
    | byte b echo =>
      have same : b = newline := by simpa [isEnd] using ends
      rw [Stroke.heard, if_pos same]
  rw [anew]
  exact heard_ignored quiet (List.forall_mem_nil _)

end Stroke

/-- What is not printable cannot be seen in the console. -/
theorem Listener.console_of_ignored {capacity limit : Nat} {H : Type} (l : Listener capacity limit H)
    (h : ∀ b ∈ l.heard, Console.isPrintable b = false) :
    l.console = ({ l with heard := [] } : Listener capacity limit H).console := by
  have nothing : l.heard.filter Console.isPrintable = [] := by
    rw [List.filter_eq_nil_iff]
    intro b hb
    simp [h b hb]
  have noneShown : l.heard.any Console.isPrintable = false := by
    rw [List.any_eq_false]
    intro b hb
    simp [h b hb]
  simp [console, kept, phase, nothing, noneShown]

theorem Listener.terminal_of_ignored {capacity limit : Nat} {H : Type} (l : Listener capacity limit H)
    (h : ∀ b ∈ l.heard, Console.isPrintable b = false) :
    l.terminal = ({ l with heard := [] } : Listener capacity limit H).terminal := by
  unfold terminal
  rw [l.console_of_ignored h]

/-! ## Terminals -/

namespace Terminal

variable {capacity limit : Nat} {H : Type}

/-- From the end of a line on, a terminal is what it was when it had only been set up. -/
theorem state_of_endLine (settings : Settings) (style : BreakStyle) (ops : List (Operation H))
    (ends : Stroke.EndLine settings.newline (Operation.strokes settings.echo [] ops)) :
    ((fresh settings style : Terminal capacity limit H).performAll ops).state =
      setUp settings style (Setup.ofHistory settings.echo ops) (Operation.leftover [] ops) := by
  rw [state_fresh, setUp_eq, Listener.state_performAll]
  exact Listener.terminal_of_ignored _ (ends.heard [])

/-- Two histories with the same setup, whatever bytes they had, each of which has come to the end of
a line: with the same bytes waiting, whatever is done next is reported of both as of a terminal that
was only set up. -/
theorem lines_isolated (settings : Settings) (style : BreakStyle) (first second : List (Operation H))
    (setup : Setup.ofHistory settings.echo first = Setup.ofHistory settings.echo second)
    (firstEnds : Stroke.EndLine settings.newline (Operation.strokes settings.echo [] first))
    (secondEnds : Stroke.EndLine settings.newline (Operation.strokes settings.echo [] second)) :
    let t : Terminal capacity limit H := ((fresh settings style).performAll first).state
    let u : Terminal capacity limit H := ((fresh settings style).performAll second).state
    let v : Terminal capacity limit H :=
      setUp settings style (Setup.ofHistory settings.echo first) t.link.unread
    t.link.unread = u.link.unread →
      ∀ ops, t.reports ops = v.reports ops ∧ u.reports ops = v.reports ops := by
  intro t u v waiting ops
  have first_eq : t = v := by
    show _ = setUp _ _ _ ((fresh settings style).performAll first).state.link.unread
    rw [unread_fresh]
    exact state_of_endLine settings style first firstEnds
  have second_eq : u = v := by
    show _ = setUp _ _ _ t.link.unread
    rw [waiting, setup, unread_fresh]
    exact state_of_endLine settings style second secondEnds
  rw [first_eq, second_eq]
  exact ⟨rfl, rfl⟩

/-- A line cleared in the middle with a bell and a high byte after it, and a line too long for the
terminal: neither is seen in what the bytes that follow lead to. -/
theorem lines_isolated_cleared :
    let settings : Settings := { delimiter := 44 }
    let first : List (Operation Nat) :=
      [.register "led".toList 0, .setFallback 3, .feed "led,on,".toUTF8.toList, .poll none, .clear,
        .setEcho true, .feed [7, 200, 108], .poll (some 2)]
    let second : List (Operation Nat) :=
      [.setEcho true, .setFallback 2, .register "led".toList 0,
        .feed "a line that does not fit\n".toUTF8.toList, .poll none, .setFallback 3, .feed [108]]
    let t : Terminal 6 4 Nat := ((fresh settings .bytes).performAll first).state
    let u : Terminal 6 4 Nat := ((fresh settings .bytes).performAll second).state
    let ops : List (Operation Nat) := [.feed "ed,off\n".toUTF8.toList, .poll none]
    Stroke.EndLine 10 (Operation.strokes false [] first) ∧
      Stroke.EndLine 10 (Operation.strokes false [] second) ∧
      t.link.unread = u.link.unread ∧ t.reports ops = u.reports ops := by
  intro settings first second t u ops
  have firstEnds : Stroke.EndLine 10 (Operation.strokes false [] first) :=
    ⟨(Operation.strokes false [] first).take 7, .clear, [.byte 7 true, .byte 200 true],
      by decide +kernel, by decide, by decide⟩
  have secondEnds : Stroke.EndLine 10 (Operation.strokes false [] second) :=
    ⟨(Operation.strokes false [] second).take 24, .byte 10 true, [],
      by decide +kernel, by decide, by decide⟩
  have waiting : t.link.unread = u.link.unread := by decide +kernel
  have isolated := lines_isolated settings .bytes first second (by decide +kernel) firstEnds secondEnds
    waiting ops
  exact ⟨firstEnds, secondEnds, waiting, isolated.1.trans isolated.2.symm⟩

end Terminal

end SerialConsole
