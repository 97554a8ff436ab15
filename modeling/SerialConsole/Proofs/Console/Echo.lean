/-
Echo writes what is typed and does nothing else. The events of a history answer its strokes one by
one: for each there is what echo writes of it, and behind what it writes of a newline the calls of
the line (`Terminal.answer_performAll`). And if what is written is left out of sight, together with the
switch itself, every operation does the same with echo on or off (`Terminal.perform_silent`).
-/
import SerialConsole.Proofs.Console.History
import SerialConsole.Proofs.Console.Lines

namespace SerialConsole

variable {capacity limit : Nat} {H : Type}

/-! ## What is written -/

/-- The bytes that are written, in order. -/
def Event.bytesWritten (events : List (Event H)) : List UInt8 :=
  events.filterMap fun
    | .byte b => some b
    | _ => none

theorem Event.bytesWritten_append (first more : List (Event H)) :
    bytesWritten (first ++ more) = bytesWritten first ++ bytesWritten more :=
  List.filterMap_append

theorem Event.bytesWritten_of_isCall {calls : List (Event H)} (h : ∀ e ∈ calls, e.isCall = true) :
    bytesWritten calls = [] := by
  refine List.filterMap_eq_nil_iff.2 fun e he => ?_
  have call := h e he
  cases e <;> first | rfl | cases call

/-- What echo writes of a byte: carriage return and line feed for the newline, and a printable byte
as it is. -/
def Console.echoOf (newline b : UInt8) : List UInt8 :=
  if b = newline then [13, 10] else if isPrintable b then [b] else []

/-- What is written of a stroke. -/
def Stroke.echoed (newline : UInt8) : Stroke → List UInt8
  | .byte b true => Console.echoOf newline b
  | .byte _ false | .clear => []

/-- The events answer the strokes in their order: for each stroke there is what is written of it, and
behind what is written of a newline there are the calls of the line that it completes. -/
inductive Event.Answer (newline : UInt8) :
    List Stroke → List (List (Event H)) → List (Event H) → Prop
  | nil : Answer newline [] [] []
  | clear {strokes : List Stroke} {lines : List (List (Event H))} {events : List (Event H)}
      (rest : Answer newline strokes lines events) : Answer newline (.clear :: strokes) lines events
  | byte {b : UInt8} {echo : Bool} {strokes : List Stroke} {lines : List (List (Event H))}
      {events : List (Event H)} (other : b ≠ newline) (rest : Answer newline strokes lines events) :
      Answer newline (.byte b echo :: strokes) lines
        (((Stroke.byte b echo).echoed newline).map .byte ++ events)
  | newline {echo : Bool} {strokes : List Stroke} {calls : List (Event H)}
      {lines : List (List (Event H))} {events : List (Event H)}
      (rest : Answer newline strokes lines events) :
      Answer newline (.byte newline echo :: strokes) (calls :: lines)
        (((Stroke.byte newline echo).echoed newline).map .byte ++ calls ++ events)

namespace Event.Answer

variable {newline : UInt8} {first more : List Stroke} {lines others : List (List (Event H))}
  {events later : List (Event H)}

theorem append (h : Answer newline first lines events) (h' : Answer newline more others later) :
    Answer newline (first ++ more) (lines ++ others) (events ++ later) := by
  induction h with
  | nil => exact h'
  | clear _ ih => exact .clear ih
  | byte other _ ih =>
    rw [List.append_assoc]
    exact .byte other ih
  | newline _ ih =>
    rw [List.append_assoc]
    exact .newline ih

/-- What is written is what is written of the strokes. -/
theorem bytesWritten_eq (h : Answer newline first lines events)
    (calls : ∀ line ∈ lines, ∀ e ∈ line, e.isCall = true) :
    bytesWritten events = first.flatMap (Stroke.echoed newline) := by
  have written (bytes : List UInt8) : bytesWritten (bytes.map Event.byte : List (Event H)) = bytes := by
    unfold bytesWritten
    rw [List.filterMap_map]
    exact List.filterMap_some
  induction h with
  | nil => rfl
  | clear _ ih => exact ih calls
  | byte _ _ ih => rw [bytesWritten_append, written, ih calls, List.flatMap_cons]
  | newline _ ih =>
    rw [List.forall_mem_cons] at calls
    rw [bytesWritten_append, bytesWritten_append, written, bytesWritten_of_isCall calls.1,
      ih calls.2, List.append_nil, List.flatMap_cons]

end Event.Answer

/-! ## What is written by a terminal -/

theorem flatMap_write_of_isCall (style : BreakStyle) {calls : List (Event H)}
    (h : ∀ e ∈ calls, e.isCall = true) : calls.flatMap style.write = calls := by
  induction calls with
  | nil => rfl
  | cons e calls ih =>
    rw [List.forall_mem_cons] at h
    have one : style.write e = [e] := by
      have call := h.1
      cases style <;> cases e <;> first | rfl | cases call
    rw [List.flatMap_cons, one, ih h.2, List.singleton_append]

namespace Console

/-- The calls of each line that bytes complete. -/
def lineCalls (c : Console capacity limit H) : List UInt8 → List (List (Event H))
  | [] => []
  | b :: bytes =>
    (if b = c.settings.newline then [c.calls c.line.text] else []) ++ (c.receive b).state.lineCalls bytes

theorem isCall_of_mem_lineCalls (c : Console capacity limit H) (bytes : List UInt8) :
    ∀ line ∈ c.lineCalls bytes, ∀ e ∈ line, e.isCall = true := by
  induction bytes generalizing c with
  | nil => exact List.forall_mem_nil _
  | cons b bytes ih =>
    refine List.forall_mem_append.2 ⟨fun line h e he => ?_, ih _⟩
    split at h
    · rw [List.mem_singleton.1 h] at he
      exact isCall_of_mem_calls he
    · cases h

/-- A byte is answered. -/
theorem answer_receive (c : Console capacity limit H) (b : UInt8) :
    Event.Answer c.settings.newline [.byte b c.settings.echo]
      (if b = c.settings.newline then [c.calls c.line.text] else [])
      ((c.receive b).events.flatMap BreakStyle.bytes.write) := by
  -- a newline may be printable: it is never written as it is
  by_cases newline : b = c.settings.newline
  · subst newline
    have events : (c.receive c.settings.newline).events.flatMap BreakStyle.bytes.write =
        ((Stroke.byte c.settings.newline c.settings.echo).echoed c.settings.newline).map .byte ++
          c.calls c.line.text ++ [] := by
      rw [receive_newline, finish_eq, List.flatMap_append,
        flatMap_write_of_isCall _ fun e he => isCall_of_mem_calls he, List.append_nil]
      cases c.settings.echo <;> simp [Stroke.echoed, echoOf, BreakStyle.write]
    rw [events, if_pos rfl]
    exact .newline .nil
  · have events : (c.receive b).events.flatMap BreakStyle.bytes.write =
        ((Stroke.byte b c.settings.echo).echoed c.settings.newline).map .byte ++ [] := by
      cases printable : isPrintable b with
      | true =>
        rw [receive_printable newline printable]
        cases c.settings.echo <;> simp [Stroke.echoed, echoOf, newline, printable, BreakStyle.write]
      | false =>
        rw [receive_ignored newline printable]
        cases c.settings.echo <;> simp [Stroke.echoed, echoOf, newline, printable]
    rw [events, if_neg newline]
    exact .byte newline .nil

theorem answer_receiveAll (c : Console capacity limit H) (bytes : List UInt8) :
    Event.Answer c.settings.newline (bytes.map (.byte · c.settings.echo)) (c.lineCalls bytes)
      ((c.receiveAll bytes).events.flatMap BreakStyle.bytes.write) := by
  induction bytes generalizing c with
  | nil => exact .nil
  | cons b bytes ih =>
    have rest := ih (c.receive b).state
    rw [settings_receive] at rest
    rw [receiveAll_cons, Outcome.events_andThen, List.flatMap_append, List.map_cons]
    exact (c.answer_receive b).append rest

end Console

namespace Terminal

/-- The calls of each line that operations complete. -/
def lineCalls (t : Terminal capacity limit H) : List (Operation H) → List (List (Event H))
  | [] => []
  | op :: ops =>
    (match op with
      | .poll count => t.console.lineCalls (t.link.unread.take (count.getD t.link.unread.length))
      | _ => []) ++ (t.perform op).state.lineCalls ops

theorem isCall_of_mem_lineCalls (t : Terminal capacity limit H) (ops : List (Operation H)) :
    ∀ line ∈ t.lineCalls ops, ∀ e ∈ line, e.isCall = true := by
  induction ops generalizing t with
  | nil => exact List.forall_mem_nil _
  | cons op ops ih =>
    refine List.forall_mem_append.2 ⟨?_, ih _⟩
    cases op with
    | poll => exact t.console.isCall_of_mem_lineCalls _
    | register | setFallback | setAfterLine | setEcho | feed | clear => exact List.forall_mem_nil _

/-- Through a link that writes line breaks as bytes, the strokes of a history are answered. -/
theorem answer_performAll (t : Terminal capacity limit H) (bytes : t.link.breakStyle = .bytes)
    (ops : List (Operation H)) :
    Event.Answer t.console.settings.newline
      (Operation.strokes t.console.settings.echo t.link.unread ops) (t.lineCalls ops)
      (t.performAll ops).events := by
  induction ops generalizing t with
  | nil => exact .nil
  | cons op ops ih =>
    have rest := ih (t.perform op).state
    rw [performAll_cons, Outcome.events_andThen]
    -- what is no poll writes nothing, and all but clearing leave the line alone
    cases op with
    | poll count =>
      have read := t.console.answer_receiveAll (t.link.unread.take (count.getD t.link.unread.length))
      rw [perform_poll] at rest
      rw [lineCalls, perform_poll]
      have rest := rest bytes
      simp only [Terminal.read, Console.settings_receiveAll] at rest
      rw [← bytes] at read
      exact read.append rest
    | clear => exact .clear (rest bytes)
    | register | setFallback | setAfterLine | setEcho | feed => exact rest bytes

end Terminal

/-! ## Echo out of sight -/

/-- The outcome with its state seen through a function, and of its events only the calls. -/
def Outcome.unwritten {S T : Type} (f : S → T) (o : Outcome S H) : Outcome T H :=
  ⟨f o.state, o.events.filter Event.isCall, o.lines⟩

theorem Outcome.unwritten_andThen {S T U V : Type} (o : Outcome S H) (f : S → T)
    (g : S → Outcome U H) (k : T → Outcome V H) (u : U → V)
    (h : ∀ s, k (f s) = (g s).unwritten u) :
    (o.unwritten f).andThen k = (o.andThen g).unwritten u := by
  ext <;> simp [unwritten, h]

/-- The console with echo off. -/
def Console.silent (c : Console capacity limit H) : Console capacity limit H :=
  { c with settings := c.settings.withEcho false }

/-- The terminal with echo off. -/
def Terminal.silent (t : Terminal capacity limit H) : Terminal capacity limit H :=
  { t with console := t.console.silent }

/-- The operation, if it sets echo, to off. -/
def Operation.silent : Operation H → Operation H
  | .setEcho _ => .setEcho false
  | op => op

/-- The report without what is written and whether echo is on. -/
def Report.silent (r : Report H) : Report H :=
  { r with events := r.events.filter Event.isCall, settings := r.settings.withEcho false }

namespace Console

theorem receive_silent (c : Console capacity limit H) (b : UInt8) :
    c.silent.receive b = (c.receive b).unwritten silent := by
  by_cases newline : b = c.settings.newline
  · subst newline
    have alike : c.silent.Alike c := ⟨rfl, rfl, rfl, rfl, rfl⟩
    have calls : (c.calls c.line.text).filter Event.isCall = c.calls c.line.text :=
      List.filter_eq_self.2 fun e he => isCall_of_mem_calls he
    rw [show c.silent.receive c.settings.newline = _ from receive_newline c.silent,
      receive_newline, finish_eq, finish_eq, alike.calls_eq]
    ext1
    · rfl
    · show [] ++ c.calls c.line.text = List.filter Event.isCall (_ ++ c.calls c.line.text)
      rw [List.filter_append, calls]
      cases c.settings.echo <;> rfl
    · rfl
  · cases printable : isPrintable b with
    | true =>
      rw [receive_printable (c := c.silent) newline printable, receive_printable newline printable]
      ext1
      · rfl
      · cases c.settings.echo <;> simp [silent, Settings.withEcho, Outcome.unwritten]
      · rfl
    | false =>
      rw [receive_ignored (c := c.silent) newline printable, receive_ignored newline printable]
      rfl

theorem receiveAll_silent (c : Console capacity limit H) (bytes : List UInt8) :
    c.silent.receiveAll bytes = (c.receiveAll bytes).unwritten silent := by
  induction bytes generalizing c with
  | nil => rfl
  | cons b bytes ih =>
    rw [receiveAll_cons, receive_silent]
    exact Outcome.unwritten_andThen _ _ _ _ _ ih

end Console

namespace Terminal

theorem read_silent (t : Terminal capacity limit H) (count : Nat) :
    t.silent.read count = (t.read count).unwritten silent := by
  have received := t.console.receiveAll_silent (t.link.unread.take count)
  have calls : ((t.console.receiveAll (t.link.unread.take count)).events.flatMap
      t.link.breakStyle.write).filter Event.isCall =
        (t.console.receiveAll (t.link.unread.take count)).events.filter Event.isCall :=
    BreakStyle.filter_write _ _ (fun _ => rfl) rfl
  unfold read silent
  simp only [received]
  ext1
  · rfl
  · show List.flatMap _ (List.filter _ _) = List.filter _ _
    rw [calls]
    exact flatMap_write_of_isCall _ fun e he => (List.mem_filter.1 he).2
  · rfl

/-- Left out of sight, echo changes nothing about what an operation does. -/
theorem perform_silent (t : Terminal capacity limit H) (op : Operation H) :
    t.silent.perform op.silent = (t.perform op).unwritten silent := by
  cases op with
  | poll count =>
    rw [perform_poll]
    exact (perform_poll t.silent count).trans (t.read_silent _)
  | register | setFallback | setAfterLine | setEcho | feed | clear => rfl

theorem reports_silent (t : Terminal capacity limit H) (ops : List (Operation H)) :
    (t.reports ops).map Report.silent = t.silent.reports (ops.map Operation.silent) := by
  induction ops generalizing t with
  | nil => rfl
  | cons op ops ih =>
    rw [List.map_cons]
    unfold reports
    rw [List.map_cons, ih, perform_silent]
    rfl

/-- Echo writes, through a link with line breaks of bytes, each printable byte that is read while it
is on, kept or not, and a carriage return and a line feed for each newline, before the calls of the
line that it completes; capacity, names and handlers have no part in it. And two histories that
differ in echo alone are reported alike but for what is written. -/
theorem echo_exact (settings : Settings) (ops : List (Operation H)) :
    let t : Terminal capacity limit H := fresh settings .bytes
    let strokes := Operation.strokes settings.echo [] ops
    Event.bytesWritten (t.performAll ops).events =
        strokes.flatMap (Stroke.echoed settings.newline) ∧
      Event.Answer settings.newline strokes (t.lineCalls ops) (t.performAll ops).events ∧
      ∀ (style : BreakStyle) (echo : Bool) (others : List (Operation H)),
        others.map Operation.silent = ops.map Operation.silent →
          ((fresh settings style : Terminal capacity limit H).reports ops).map Report.silent =
            ((fresh (settings.withEcho echo) style : Terminal capacity limit H).reports others).map
              Report.silent := by
  intro t strokes
  have answer : Event.Answer settings.newline strokes (t.lineCalls ops) (t.performAll ops).events :=
    answer_performAll t rfl ops
  refine ⟨answer.bytesWritten_eq (isCall_of_mem_lineCalls t ops), answer, ?_⟩
  intro style echo others same
  rw [reports_silent, reports_silent, same]
  rfl

/-- A line ended by an exclamation mark, with a bell in it, a blank read while echo is off, and a byte
that finds no room; and the same with echo the other way round. -/
theorem echo_exact_toggled :
    let settings : Settings := { newline := 33, echo := true }
    let ops (on : Bool) : List (Operation Nat) :=
      [.register "ab".toList 0, .setAfterLine 1, .feed [97, 7, 98, 32, 120, 33, 99],
        .poll (some 3), .setEcho !on, .poll (some 1), .setEcho on, .poll none]
    let t : Terminal 3 2 Nat := fresh settings .bytes
    let u : Terminal 3 2 Nat := fresh (settings.withEcho false) .bytes
    Event.bytesWritten (t.performAll (ops true)).events = [97, 98, 120, 13, 10, 99] ∧
      (ops false).map Operation.silent = (ops true).map Operation.silent ∧
      (t.reports (ops true)).map Report.silent = (u.reports (ops false)).map Report.silent := by
  intro settings ops t u
  have exact := @echo_exact 3 2 Nat settings (ops true)
  have same : (ops false).map Operation.silent = (ops true).map Operation.silent := rfl
  exact ⟨exact.1.trans (by decide), same, exact.2.2 .bytes false (ops false) same⟩

end Terminal

end SerialConsole
