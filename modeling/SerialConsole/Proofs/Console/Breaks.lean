/-
Line breaks by a means of the link's own. A link is a port that logs how it is written to: it may leave
line breaks to the method that writes two bytes, or have a method of its own for them, which a reference
to the port passes on (`Port.log_reference`). Wherever such a link logs a line break the other logs the
two bytes, and everything else about an operation is the same (`Terminal.perform_onBytes`). Line breaks
are written for the newlines that are read while echo is on, and for nothing else
(`Terminal.countP_performAll`).
-/
import SerialConsole.Proofs.Console.History
import SerialConsole.Proofs.Console.Lines

namespace SerialConsole

variable {capacity limit : Nat} {H : Type}

/-! ## Ports -/

/-- How a port is written to: what it logs for a byte, and what for a line break. -/
structure Port (H : Type) where
  writeByte : UInt8 → List (Event H)
  writeLine : List (Event H)

namespace Port

/-- A port that leaves line breaks to its bytes: a carriage return and a line feed. -/
def ofBytes (writeByte : UInt8 → List (Event H)) : Port H where
  writeByte
  writeLine := writeByte 13 ++ writeByte 10

/-- A port that logs its bytes as they are, and line breaks as such. -/
def overriding : Port H where
  writeByte b := [.byte b]
  writeLine := [.lineBreak]

/-- A reference to a port is a port, and passes on to it whatever is written. -/
def reference (p : Port H) : Port H where
  writeByte b := p.writeByte b
  writeLine := p.writeLine

/-- What is left of an event in the log; calls of handlers are logged as they are. -/
def log (p : Port H) : Event H → List (Event H)
  | .byte b => p.writeByte b
  | .lineBreak => p.writeLine
  | e => [e]

theorem log_reference (p : Port H) : p.reference.log = p.log := rfl

theorem log_ofBytes : (ofBytes fun b => [.byte b] : Port H).log = BreakStyle.bytes.write := by
  funext e
  cases e <;> rfl

theorem log_overriding : (overriding : Port H).log = BreakStyle.native.write := by
  funext e
  cases e <;> rfl

end Port

/-! ## Line breaks spelled out -/

namespace Event

/-- The events with two bytes in the place of each line break. -/
def spelledOut (events : List (Event H)) : List (Event H) :=
  events.flatMap fun
    | .lineBreak => [.byte 13, .byte 10]
    | e => [e]

/-- The event is a line break. -/
def isLineBreak : Event H → Bool
  | .lineBreak => true
  | _ => false

theorem spelledOut_append (first more : List (Event H)) :
    spelledOut (first ++ more) = spelledOut first ++ spelledOut more :=
  List.flatMap_append

theorem written_append (first more : List (Event H)) :
    written (first ++ more) = written first + written more :=
  List.countP_append

/-- A link with line breaks of bytes spells them out, whatever another link made of the events. -/
theorem spelledOut_flatMap_write (style : BreakStyle) (events : List (Event H)) :
    spelledOut (events.flatMap style.write) = events.flatMap BreakStyle.bytes.write := by
  induction events with
  | nil => rfl
  | cons e events ih =>
    have one : spelledOut (style.write e) = BreakStyle.bytes.write e := by
      cases style <;> cases e <;> rfl
    rw [List.flatMap_cons, spelledOut_append, one, ih, List.flatMap_cons]

/-- Each line break is two bytes more. -/
theorem written_spelledOut (events : List (Event H)) :
    written (spelledOut events) = written events + 2 * events.countP isLineBreak := by
  induction events with
  | nil => rfl
  | cons e events ih =>
    have one : written (spelledOut [e]) = written [e] + 2 * [e].countP isLineBreak := by
      cases e <;> rfl
    rw [show e :: events = [e] ++ events from rfl, spelledOut_append, written_append, one, ih,
      written_append, List.countP_append]
    omega

theorem isLineBreak_of_isCall {e : Event H} (h : e.isCall = true) : e.isLineBreak = false := by
  cases e <;> first | rfl | cases h

end Event

/-- The outcome with its state seen through a function, and line breaks spelled out. -/
def Outcome.spelledOut {S T : Type} (f : S → T) (o : Outcome S H) : Outcome T H :=
  ⟨f o.state, Event.spelledOut o.events, o.lines⟩

theorem Outcome.spelledOut_andThen {S T U V : Type} (o : Outcome S H) (f : S → T)
    (g : S → Outcome U H) (k : T → Outcome V H) (u : U → V)
    (h : ∀ s, k (f s) = (g s).spelledOut u) :
    (o.spelledOut f).andThen k = (o.andThen g).spelledOut u := by
  ext1 <;> simp [spelledOut, h, Event.spelledOut_append]

/-- The report with line breaks spelled out. -/
def Report.spelledOut (r : Report H) : Report H := { r with events := Event.spelledOut r.events }

namespace Terminal

/-- The terminal on a link that writes line breaks as bytes. -/
def onBytes (t : Terminal capacity limit H) : Terminal capacity limit H :=
  { t with link := { t.link with breakStyle := .bytes } }

/-- An operation does the same on either link but for line breaks. -/
theorem perform_onBytes (t : Terminal capacity limit H) (op : Operation H) :
    t.onBytes.perform op = (t.perform op).spelledOut onBytes := by
  have reads (count : Nat) : t.onBytes.read count = (t.read count).spelledOut onBytes := by
    unfold Terminal.read Outcome.spelledOut
    rw [Event.spelledOut_flatMap_write]
    rfl
  cases op with
  | poll count =>
    cases count with
    | none => exact reads _
    | some count => exact reads count
  | register | setFallback | setAfterLine | setEcho | feed | clear => rfl

theorem performAll_onBytes (t : Terminal capacity limit H) (ops : List (Operation H)) :
    t.onBytes.performAll ops = (t.performAll ops).spelledOut onBytes := by
  induction ops generalizing t with
  | nil => rfl
  | cons op ops ih =>
    rw [performAll_cons, perform_onBytes]
    exact Outcome.spelledOut_andThen _ _ _ _ _ ih

theorem reports_onBytes (t : Terminal capacity limit H) (ops : List (Operation H)) :
    t.onBytes.reports ops = (t.reports ops).map Report.spelledOut := by
  induction ops generalizing t with
  | nil => rfl
  | cons op ops ih =>
    unfold reports
    rw [List.map_cons, perform_onBytes, ← ih]
    rfl

end Terminal

/-! ## Line breaks of a run -/

namespace Console

theorem countP_calls (c : Console capacity limit H) (t : Text) :
    (c.calls t).countP Event.isLineBreak = 0 := by
  refine List.countP_eq_zero.2 fun e he => ?_
  rw [Event.isLineBreak_of_isCall (isCall_of_mem_calls he)]
  exact Bool.false_ne_true

theorem countP_receive (c : Console capacity limit H) (b : UInt8) :
    (c.receive b).events.countP Event.isLineBreak =
      [Stroke.byte b c.settings.echo].count (.byte c.settings.newline true) := by
  by_cases newline : b = c.settings.newline
  · subst newline
    rw [receive_newline, finish_eq, List.countP_append, countP_calls]
    cases c.settings.echo <;> simp [Event.isLineBreak]
  · rw [List.count_singleton, if_neg (by simp [newline])]
    cases printable : isPrintable b with
    | true =>
      rw [receive_printable newline printable]
      cases c.settings.echo <;> rfl
    | false =>
      rw [receive_ignored newline printable]
      rfl

theorem countP_receiveAll (c : Console capacity limit H) (bytes : List UInt8) :
    (c.receiveAll bytes).events.countP Event.isLineBreak =
      (bytes.map (Stroke.byte · c.settings.echo)).count (.byte c.settings.newline true) := by
  induction bytes generalizing c with
  | nil => rfl
  | cons b bytes ih =>
    rw [receiveAll_cons, Outcome.events_andThen, List.countP_append, countP_receive, ih,
      settings_receive]
    exact List.count_append.symm

end Console

namespace Terminal

theorem flatMap_write_native (events : List (Event H)) :
    events.flatMap BreakStyle.native.write = events :=
  List.flatMap_singleton' events

/-- On a link with a means of its own, the line breaks are the newlines read while echo is on. -/
theorem countP_performAll (t : Terminal capacity limit H) (native : t.link.breakStyle = .native)
    (ops : List (Operation H)) :
    (t.performAll ops).events.countP Event.isLineBreak =
      (Operation.strokes t.console.settings.echo t.link.unread ops).count
        (.byte t.console.settings.newline true) := by
  induction ops generalizing t with
  | nil => rfl
  | cons op ops ih =>
    have rest := ih (t.perform op).state
    rw [performAll_cons, Outcome.events_andThen, List.countP_append]
    -- what is no poll writes nothing
    cases op with
    | poll count =>
      have read : (t.perform (.poll count)).events.countP Event.isLineBreak =
          ((t.link.unread.take (count.getD t.link.unread.length)).map
            (Stroke.byte · t.console.settings.echo)).count (.byte t.console.settings.newline true) := by
        rw [perform_poll, ← Console.countP_receiveAll]
        simp only [Terminal.read, native, flatMap_write_native]
      rw [perform_poll] at rest
      have rest := rest native
      simp only [Terminal.read, Console.settings_receiveAll] at rest
      rw [read, Operation.strokes, List.count_append, ← rest, perform_poll]
      rfl
    | clear =>
      have other : Stroke.clear ≠ .byte t.console.settings.newline true := Stroke.noConfusion
      rw [Operation.strokes, List.count_cons_of_ne other]
      exact (Nat.zero_add _).trans (rest native)
    | register | setFallback | setAfterLine | setEcho | feed =>
      exact (Nat.zero_add _).trans (rest native)

/-- A link that has a means of its own for line breaks, like a reference to a port that overrides them,
makes no other difference than that: with line breaks spelled out its log is that of a link that leaves
them to its bytes, and every operation is reported alike. The bytes written on it are fewer by two for
each newline that was read while echo was on. -/
theorem breaks_only (settings : Settings) (ops : List (Operation H)) :
    let t : Terminal capacity limit H := fresh settings .bytes
    let u : Terminal capacity limit H := fresh settings .native
    let strokes := Operation.strokes settings.echo [] ops
    (Port.ofBytes fun b => [.byte b] : Port H).log = t.link.breakStyle.write ∧
      (Port.overriding.reference : Port H).log = u.link.breakStyle.write ∧
      Event.spelledOut (u.performAll ops).events = (t.performAll ops).events ∧
      (u.reports ops).map Report.spelledOut = t.reports ops ∧
      Event.written (t.performAll ops).events =
        Event.written (u.performAll ops).events + 2 * strokes.count (.byte settings.newline true) := by
  intro t u strokes
  have same : t = u.onBytes := rfl
  have log : (t.performAll ops).events = Event.spelledOut (u.performAll ops).events := by
    rw [same, performAll_onBytes]
    rfl
  refine ⟨Port.log_ofBytes, ?_, log.symm, ?_, ?_⟩
  · rw [Port.log_reference]
    exact Port.log_overriding
  · rw [same, reports_onBytes]
  · rw [log, Event.written_spelledOut, countP_performAll u rfl]
    rfl

/-- A line break comes before the calls of its line. -/
example :
    ((fresh { echo := true } .native : Terminal 4 4 Nat).performAll
      [.setFallback 0, .feed [97, 10, 10], .poll none]).events =
        [.byte 97, .lineBreak, .unmatched 0 ['a'], .lineBreak] := by
  decide +kernel

end Terminal

end SerialConsole
