/-
A byte that is neither printable nor the newline leaves no trace (`Console.receive_invisible`). So
bytes and what is left of them without such bytes are received alike, and wherever such bytes are put
in, in the middle of a name or behind a line that is full, nothing comes of it.
-/
import SerialConsole.Proofs.Console.Traffic

namespace SerialConsole

variable {capacity limit : Nat} {H : Type}

namespace Console

/-- The byte is the newline, or printable. -/
def isVisible (newline b : UInt8) : Bool := b == newline || isPrintable b

theorem isVisible_eq_false {newline b : UInt8} :
    isVisible newline b = false ↔ b ≠ newline ∧ isPrintable b = false := by
  simp [isVisible]

theorem receive_invisible {c : Console capacity limit H} {b : UInt8}
    (h : isVisible c.settings.newline b = false) : c.receive b = { state := c } :=
  receive_ignored (isVisible_eq_false.1 h).1 (isVisible_eq_false.1 h).2

theorem receiveAll_filter_visible (c : Console capacity limit H) (bytes : List UInt8) :
    c.receiveAll (bytes.filter (isVisible c.settings.newline)) = c.receiveAll bytes := by
  induction bytes generalizing c with
  | nil => rfl
  | cons b bytes ih =>
    cases visible : isVisible c.settings.newline b with
    | true =>
      have rest := ih (c.receive b).state
      rw [settings_receive] at rest
      rw [List.filter_cons_of_pos visible]
      exact Outcome.andThen_congr rest
    | false =>
      rw [List.filter_cons_of_neg (by simp [visible]), receiveAll_cons, receive_invisible visible,
        Outcome.andThen_of_nothing, ih]

/-- Bytes that look the same lead to the same. -/
theorem receiveAll_eq_of_visible (c : Console capacity limit H) {first second : List UInt8}
    (h : first.filter (isVisible c.settings.newline) = second.filter (isVisible c.settings.newline)) :
    c.receiveAll first = c.receiveAll second := by
  rw [← receiveAll_filter_visible, h, receiveAll_filter_visible]

end Console

namespace Terminal

/-- The newline is never changed. -/
theorem newline_performAll (t : Terminal capacity limit H) (ops : List (Operation H)) :
    (t.performAll ops).state.console.settings.newline = t.console.settings.newline := by
  induction ops generalizing t with
  | nil => rfl
  | cons op ops ih =>
    refine (ih (t.perform op).state).trans ?_
    cases op with
    | poll count =>
      rw [perform_poll, read]
      exact congrArg Settings.newline (Console.settings_receiveAll ..)
    | register | setFallback | setAfterLine | setEcho | feed | clear => rfl

/-- Bytes that come, if all that waits is read then. -/
theorem performAll_feed_poll (t : Terminal capacity limit H) (bytes : List UInt8) :
    let o := t.console.receiveAll (t.link.unread ++ bytes)
    t.performAll [.feed bytes, .poll none] =
      { state := ⟨o.state, { t.link with unread := [] }⟩
        events := o.events.flatMap t.link.breakStyle.write
        lines := o.lines } := by
  intro o
  ext1 <;> simp [perform, read, o]

theorem performAll_eq_of_visible (t : Terminal capacity limit H) {first second : List UInt8}
    (h : first.filter (Console.isVisible t.console.settings.newline) =
      second.filter (Console.isVisible t.console.settings.newline)) :
    t.performAll [.feed first, .poll none] = t.performAll [.feed second, .poll none] := by
  have received : t.console.receiveAll (t.link.unread ++ first) =
      t.console.receiveAll (t.link.unread ++ second) := by
    apply Console.receiveAll_eq_of_visible
    rw [List.filter_append, List.filter_append, h]
  rw [performAll_feed_poll, performAll_feed_poll, received]

/-- Whatever was done with a terminal: bytes that come and are read have the same outcome, events and
all, as what is left of them when all that are neither printable nor the newline are taken out, so
handlers end in the same states; and nothing comes of such bytes wherever they are put in. -/
theorem invisible_removed (settings : Settings) (style : BreakStyle) (ops : List (Operation H))
    (bytes : List UInt8) :
    let t : Terminal capacity limit H := ((fresh settings style).performAll ops).state
    let sent (bytes : List UInt8) := t.performAll [.feed bytes, .poll none]
    let visible := Console.isVisible settings.newline
    (sent bytes = sent (bytes.filter visible) ∧
        ∀ (σ ε : Type) (respond : σ → Event H → σ × List ε) (s : σ),
          Event.replay respond s (sent bytes).events =
            Event.replay respond s (sent (bytes.filter visible)).events) ∧
      ∀ front added back : List UInt8,
        sent (front ++ added.filter (!visible ·) ++ back) = sent (front ++ back) := by
  intro t sent visible
  have newline : t.console.settings.newline = settings.newline := newline_performAll _ ops
  have same : sent bytes = sent (bytes.filter visible) := by
    apply performAll_eq_of_visible
    rw [newline, List.filter_filter]
    simp [visible]
  refine ⟨⟨same, fun _ _ respond s => by rw [same]⟩, fun front added back => ?_⟩
  apply performAll_eq_of_visible
  rw [newline]
  simp [visible]

end Terminal

end SerialConsole
