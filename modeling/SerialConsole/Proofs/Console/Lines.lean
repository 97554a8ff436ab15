/-
What a line leads to. Bytes without a newline among them are echoed, and kept as far as they are
printable and find room (`receiveAll_unfinished`); the newline after them leads to the calls of the
text that was kept (`receiveAll_line`). So where a line starts with nothing kept, the handler that
its first token is handed to depends on the bytes of the line alone, and not on the way they come
over the link (`dispatched_line`).
-/
import SerialConsole.Proofs.Console.Refinement
import SerialConsole.Proofs.Console.Traffic

namespace SerialConsole

/-- The event hands the first token of a line to a handler. -/
def Event.isDispatch {H : Type} : Event H → Bool
  | .command .. | .unmatched .. => true
  | .byte _ | .lineBreak | .finished _ => false

section Dispatch

variable {H : Type}

@[simp] theorem Event.isDispatch_command (i : Nat) (handler : H) (arguments : Arguments) :
    (Event.command i handler arguments).isDispatch = true := rfl

@[simp] theorem Event.isDispatch_unmatched (handler : H) (token : Text) :
    (Event.unmatched handler token).isDispatch = true := rfl

@[simp] theorem Event.isDispatch_byte (b : UInt8) : (Event.byte b : Event H).isDispatch = false := rfl

@[simp] theorem Event.isDispatch_lineBreak : (Event.lineBreak : Event H).isDispatch = false := rfl

@[simp] theorem Event.isDispatch_finished (handler : H) :
    (Event.finished handler).isDispatch = false := rfl

end Dispatch

/-- The event calls a handler. -/
@[simp] def Event.isCall {H : Type} : Event H → Bool
  | .command .. | .unmatched .. | .finished _ => true
  | .byte _ | .lineBreak => false

namespace Console

variable {capacity limit : Nat} {H : Type}

/-- The text of a line: its printable bytes, as many as there is room for. -/
def textOf (capacity : Nat) (bytes : List UInt8) : Text :=
  Text.ofBytes ((bytes.filter isPrintable).take capacity)

/-- What is written back for bytes that end no line. -/
def echoes (c : Console capacity limit H) (bytes : List UInt8) : List (Event H) :=
  if c.settings.echo then (bytes.filter isPrintable).map .byte else []

/-! ## Bytes that end no line -/

theorem echoes_cons_printable (c : Console capacity limit H) {b : UInt8} (bytes : List UInt8)
    (printable : isPrintable b = true) :
    c.echoes (b :: bytes) = (if c.settings.echo then [.byte b] else []) ++ c.echoes bytes := by
  unfold echoes
  cases c.settings.echo <;> simp [printable]

theorem echoes_cons_ignored (c : Console capacity limit H) {b : UInt8} (bytes : List UInt8)
    (unprintable : isPrintable b = false) : c.echoes (b :: bytes) = c.echoes bytes := by
  unfold echoes
  rw [List.filter_cons_of_neg (by simp [unprintable])]

theorem receiveAll_unfinished {c : Console capacity limit H} {bytes : List UInt8}
    (others : c.settings.newline ∉ bytes) :
    c.receiveAll bytes =
      { state := { c with
          line := (c.line.pushAll (bytes.filter isPrintable)).1
          phase := if bytes.any isPrintable then .accumulating else c.phase }
        events := c.echoes bytes } := by
  -- the line and the phase change along the way, the settings do not
  induction bytes generalizing c with
  | nil => simp [Line.pushAll, echoes]
  | cons b bytes ih =>
    rw [List.mem_cons, not_or] at others
    obtain ⟨other, others⟩ := others
    rw [receiveAll_cons]
    cases printable : isPrintable b with
    | true =>
      rw [receive_printable (Ne.symm other) printable, echoes_cons_printable c bytes printable]
      have rest := ih (c := { c with line := (c.line.push b).1, phase := .accumulating }) others
      simp only [Outcome.andThen]
      rw [rest]
      simp [printable, Line.pushAll, echoes]
    | false =>
      rw [receive_ignored (Ne.symm other) printable, Outcome.andThen_of_nothing, ih others,
        echoes_cons_ignored c bytes printable]
      simp [printable]

/-! ## A whole line -/

/-- The line after bytes that start on nothing has the text of these bytes. -/
theorem text_pushAll {l : Line capacity} (blank : l.bytes = []) (bytes : List UInt8) :
    (l.pushAll (bytes.filter isPrintable)).1.text = textOf capacity bytes := by
  unfold Line.text textOf
  rw [Line.bytes_pushAll, blank, List.nil_append]
  refine Text.decode_of_ascii fun b hb => lt_of_isPrintable ?_
  exact (List.mem_filter.1 (List.mem_of_mem_take hb)).2

/-- A line that starts on nothing is echoed, leads to the calls of its text, and leaves nothing. -/
theorem receiveAll_line {c : Console capacity limit H} {bytes : List UInt8}
    (blank : c.line.bytes = []) (others : c.settings.newline ∉ bytes) :
    c.receiveAll (bytes ++ [c.settings.newline]) =
      { state := c.clear
        events := c.echoes bytes ++ (if c.settings.echo then [.lineBreak] else []) ++
          c.calls (textOf capacity bytes)
        lines := 1 } := by
  have alike (line : Line capacity) (phase : Phase) :
      ({ c with line, phase } : Console capacity limit H).Alike c := (Alike.refl c).anew ..
  rw [receiveAll_append, receiveAll_unfinished others]
  simp only [Outcome.andThen, receiveAll_cons, receiveAll_nil]
  rw [receive_newline { c with line := _, phase := _ }, finish_eq, text_pushAll blank,
    (alike _ _).calls_eq]
  simp [clear]

theorem isDispatch_of_mem_dispatch {c : Console capacity limit H} {token : Text}
    {arguments : Arguments} {e : Event H} (h : e ∈ c.dispatch token arguments) :
    e.isDispatch = true := by
  unfold dispatch at h
  split at h
  · rw [List.mem_singleton.1 h, Event.isDispatch_command]
  · obtain ⟨handler, -, rfl⟩ := Option.map_eq_some_iff.1 (Option.mem_toList.1 h)
    exact Event.isDispatch_unmatched handler token

theorem isCall_of_mem_calls {c : Console capacity limit H} {t : Text} {e : Event H}
    (h : e ∈ c.calls t) : e.isCall = true := by
  unfold calls at h
  rcases List.mem_append.1 h with handed | after
  · split at handed
    · cases handed
    · have dispatched := isDispatch_of_mem_dispatch handed
      cases e <;> first | rfl | cases dispatched
  · obtain ⟨handler, -, rfl⟩ := Option.map_eq_some_iff.1 (Option.mem_toList.1 after)
    rfl

theorem dispatch_of_selects (c : Console capacity limit H) {token : Text}
    {i : Fin c.registry.size} (h : c.registry.Selects token i) (arguments : Arguments) :
    c.dispatch token arguments = [.command i (c.registry.get i).handler arguments] := by
  unfold dispatch
  rw [Registry.index?_eq_some_iff_selects.2 h]

theorem dispatch_of_unnamed (c : Console capacity limit H) {token : Text}
    (h : ∀ i, (c.registry.get i).name ≠ Text.clip token limit) (arguments : Arguments) :
    c.dispatch token arguments = (c.fallback.map (Event.unmatched · token)).toList := by
  unfold dispatch
  rw [Registry.index?_eq_none_iff.2 h]

/-- What a line is handed to: nothing without a token, and else what its first token selects. -/
theorem filter_calls (c : Console capacity limit H) (t : Text) :
    (c.calls t).filter Event.isDispatch =
      match (Cursor.ofText t).next [c.settings.delimiterChar] with
      | (none, _) => []
      | (some token, cursor) => c.dispatch token ⟨cursor, c.settings.delimiterChar⟩ := by
  have after : (c.afterLine.map Event.finished).toList.filter Event.isDispatch = [] := by
    cases c.afterLine <;> simp
  unfold calls
  rw [List.filter_append, after, List.append_nil]
  rcases (Cursor.ofText t).next [c.settings.delimiterChar] with ⟨_ | token, cursor⟩
  · rfl
  · exact List.filter_eq_self.2 fun e he => isDispatch_of_mem_dispatch he

theorem filter_echoes (c : Console capacity limit H) (bytes : List UInt8) {p : Event H → Bool}
    (byte : ∀ b, p (.byte b) = false) : (c.echoes bytes).filter p = [] := by
  refine List.filter_eq_nil_iff.2 fun e he => ?_
  unfold echoes at he
  split at he
  · obtain ⟨b, -, rfl⟩ := List.mem_map.1 he
    simp [byte]
  · cases he

end Console

namespace Terminal

variable {capacity limit : Nat} {H : Type}

/-- The bytes that the polls of a schedule read. -/
def taken (t : Terminal capacity limit H) (schedule : List Traffic) : List UInt8 :=
  (t.link.unread ++ Traffic.fed schedule).take (t.consumed schedule)

/-- What the first tokens of the lines that are completed are handed to. -/
def dispatched (t : Terminal capacity limit H) (schedule : List Traffic) : List (Event H) :=
  (t.performAll (schedule.map Traffic.operation)).events.filter Event.isDispatch

theorem dispatched_line {t : Terminal capacity limit H} {schedule : List Traffic} {bytes : List UInt8}
    (blank : t.console.line.bytes = []) (others : t.console.settings.newline ∉ bytes)
    (sent : t.taken schedule = bytes ++ [t.console.settings.newline]) :
    t.dispatched schedule =
      match (Cursor.ofText (Console.textOf capacity bytes)).next [t.console.settings.delimiterChar] with
      | (none, _) => []
      | (some token, cursor) => t.console.dispatch token ⟨cursor, t.console.settings.delimiterChar⟩ := by
  have intake := (performAll_intake t schedule).events
  rw [show List.take _ _ = t.taken schedule from rfl, sent, Console.receiveAll_line blank others] at intake
  rw [dispatched, intake, BreakStyle.filter_write _ _ Event.isDispatch_byte Event.isDispatch_lineBreak,
    List.filter_append, List.filter_append, Console.filter_echoes _ _ Event.isDispatch_byte,
    Console.filter_calls]
  cases t.console.settings.echo <;> rfl

end Terminal

end SerialConsole
