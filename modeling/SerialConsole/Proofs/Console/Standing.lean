/-
How a terminal stands between operations. A line has begun, or the terminal is idle; it is never left
between a newline and the end of what the newline leads to. Which of the two it is depends on the
strokes since the last line ended (`Stroke.any_heard_iff_begun`). What is pending is printable and
holds no newline, so its text is all of it (`Listener.standing`).
-/
import SerialConsole.Proofs.Console.Isolation
import SerialConsole.Proofs.Console.Reach
import Mathlib.Data.List.Induction

namespace SerialConsole

/-! ## Lines that have begun -/

namespace Stroke

/-- A printable byte other than the newline has been read, and no line has ended since. -/
def Begun (newline : UInt8) (strokes : List Stroke) : Prop :=
  ∃ before b echo after, strokes = before ++ .byte b echo :: after ∧
    Console.isPrintable b = true ∧ b ≠ newline ∧ ∀ s ∈ after, s.isEnd newline = false

variable {newline : UInt8} {strokes : List Stroke}

theorem not_begun_nil : ¬ Begun newline [] := by
  rintro ⟨before, b, echo, after, parts, -⟩
  cases before <;> cases parts

theorem not_begun_concat_end {s : Stroke} (ends : s.isEnd newline = true) :
    ¬ Begun newline (strokes ++ [s]) := by
  rintro ⟨before, b, echo, after, parts, -, other, quiet⟩
  rcases List.eq_nil_or_concat after with rfl | ⟨after, last, rfl⟩
  · obtain ⟨-, rfl⟩ := List.append_singleton_inj.1 parts
    exact other (by simpa [isEnd] using ends)
  · rw [List.concat_eq_append, ← List.cons_append, ← List.append_assoc] at parts
    obtain ⟨-, rfl⟩ := List.append_singleton_inj.1 parts
    rw [quiet s (by simp)] at ends
    cases ends

/-- A byte that ends no line begins one, or goes on with the line there is. -/
theorem begun_concat_byte {b : UInt8} {echo : Bool} (other : b ≠ newline) :
    Begun newline (strokes ++ [.byte b echo]) ↔
      Console.isPrintable b = true ∨ Begun newline strokes := by
  constructor
  · rintro ⟨before, c, on, after, parts, printable, same, quiet⟩
    rcases List.eq_nil_or_concat after with rfl | ⟨after, last, rfl⟩
    · obtain ⟨-, now⟩ := List.append_singleton_inj.1 parts
      cases now
      exact .inl printable
    · rw [List.concat_eq_append, ← List.cons_append, ← List.append_assoc] at parts
      obtain ⟨earlier, -⟩ := List.append_singleton_inj.1 parts
      exact .inr ⟨before, c, on, after, earlier, printable, same, fun s hs => quiet s (by simp [hs])⟩
  · rintro (printable | ⟨before, c, on, after, rfl, printable, same, quiet⟩)
    · exact ⟨strokes, b, echo, [], rfl, printable, other, List.forall_mem_nil _⟩
    · refine ⟨before, c, on, after ++ [.byte b echo], by simp, printable, same, fun s hs => ?_⟩
      rcases List.mem_append.1 hs with earlier | now
      · exact quiet s earlier
      · rw [List.mem_singleton.1 now]
        simpa [isEnd] using other

/-- There is something printable among what has been heard if and only if a line has begun. -/
theorem any_heard_iff_begun :
    (heard newline [] strokes).any Console.isPrintable = true ↔ Begun newline strokes := by
  -- the last stroke decides, so the strokes are taken from the end
  induction strokes using List.reverseRecOn with
  | nil => simp [heard, not_begun_nil]
  | append_singleton strokes s ih =>
    rw [heard_append]
    cases s with
    | clear => simp [heard, not_begun_concat_end (s := .clear) rfl]
    | byte b echo =>
      by_cases same : b = newline
      · have ends : (Stroke.byte b echo).isEnd newline = true := by simpa [isEnd] using same
        simp [heard, same, not_begun_concat_end (same ▸ ends)]
      · rw [begun_concat_byte same, ← ih]
        simp [heard, same, or_comm]

end Stroke

/-! ## Between operations -/

/-- How a console stands that the settings have made and that has had these strokes. -/
structure Console.Standing {capacity limit : Nat} {H : Type} (settings : Settings)
    (strokes : List Stroke) (c : Console capacity limit H) : Prop where
  phase : c.phase = .idle ∨ c.phase = .accumulating
  accumulating_iff : c.phase = .accumulating ↔ Stroke.Begun settings.newline strokes
  blank : c.phase = .idle → c.line.bytes = []
  begun : c.phase = .accumulating → 0 < capacity → c.line.bytes ≠ []
  fits : c.line.bytes.length ≤ capacity
  plain : ∀ b ∈ c.line.bytes, 0x20 ≤ b ∧ b ≤ 0x7E ∧ b ≠ settings.newline
  /-- The text of the line is all of it. -/
  whole : Text.encode c.line.text = c.line.bytes
  newline : c.settings.newline = settings.newline
  delimiter : c.settings.delimiter = settings.delimiter

variable {capacity limit : Nat} {H : Type}

namespace Listener

variable {l : Listener capacity limit H}

theorem phase_eq_accumulating_iff :
    l.phase = .accumulating ↔ l.heard.any Console.isPrintable = true := by
  unfold phase
  split <;> simp [*]

theorem idle_or_accumulating (l : Listener capacity limit H) :
    l.phase = .idle ∨ l.phase = .accumulating := by
  unfold phase
  split
  · exact .inr rfl
  · exact .inl rfl

theorem kept_of_idle (idle : l.phase = .idle) : l.kept = [] := by
  have unbegun : ¬ l.heard.any Console.isPrintable = true := by
    rw [← phase_eq_accumulating_iff, idle]
    exact nofun
  have filtered : l.heard.filter Console.isPrintable = [] := by simpa using unbegun
  rw [kept, filtered, List.take_nil]

/-- The first printable byte is kept, if any can be. -/
theorem kept_of_accumulating (accumulating : l.phase = .accumulating) (room : 0 < capacity) :
    l.kept ≠ [] := by
  obtain ⟨b, hb, shown⟩ := List.any_eq_true.1 (phase_eq_accumulating_iff.1 accumulating)
  have filtered : b ∈ l.heard.filter Console.isPrintable := List.mem_filter.2 ⟨hb, shown⟩
  intro nothing
  rcases List.take_eq_nil_iff.1 nothing with full | unshown
  · omega
  · exact List.not_mem_nil (unshown ▸ filtered)

theorem plain_of_mem_kept {settings : Settings} (keeps : Keeps settings l) {b : UInt8}
    (h : b ∈ l.kept) : 0x20 ≤ b ∧ b ≤ 0x7E ∧ b ≠ settings.newline := by
  have shown := isPrintable_of_mem_kept h
  rw [Console.isPrintable, Bool.and_eq_true, decide_eq_true_eq, decide_eq_true_eq] at shown
  refine ⟨shown.1, shown.2, ?_⟩
  rintro rfl
  exact keeps.heard (List.mem_filter.1 (List.mem_of_mem_take h)).1

theorem encode_text_console (l : Listener capacity limit H) :
    Text.encode l.console.line.text = l.kept := by
  rw [text_line_console,
    Text.encode_ofBytes fun _ h => Console.lt_of_isPrintable (isPrintable_of_mem_kept h)]

/-- What a listener has heard says how its console stands. -/
theorem standing {settings : Settings} {strokes : List Stroke} (keeps : Keeps settings l)
    (heard : l.heard = Stroke.heard settings.newline [] strokes) :
    l.console.Standing settings strokes where
  phase := l.idle_or_accumulating
  accumulating_iff := by
    rw [← Stroke.any_heard_iff_begun, ← heard]
    exact phase_eq_accumulating_iff
  blank := kept_of_idle
  begun := kept_of_accumulating
  fits := List.length_take_le ..
  plain _ := plain_of_mem_kept keeps
  whole := l.encode_text_console
  newline := keeps.newline
  delimiter := keeps.delimiter

end Listener

namespace Terminal

/-- Whatever was done with a terminal, and when nothing was: it is idle with nothing pending, or it is
accumulating, and the latter exactly if a printable byte other than the newline has been read since
the last newline or clearing; what is pending fits, is printable, holds no newline and is read as text
in full, and there is something pending of a line that has begun if there is room for anything; newline
and delimiter are those that the terminal was made with. -/
theorem standing_performAll (settings : Settings) (style : BreakStyle) (ops : List (Operation H)) :
    ((fresh settings style : Terminal capacity limit H).performAll ops).state.console.Standing settings
      (Operation.strokes settings.echo [] ops) := by
  rw [state_fresh]
  refine Listener.standing (Listener.performAll_keeps (Listener.keeps_fresh settings style) ops).1 ?_
  rw [Listener.state_performAll]
  rfl

/-- Where there is no room at all, a line begins and nothing of it is pending. -/
example :
    let t := ((fresh {} .bytes : Terminal 0 2 Nat).performAll [.feed [97], .poll none]).state
    t.console.phase = .accumulating ∧ t.console.line.bytes = [] := by
  decide

end Terminal

end SerialConsole
