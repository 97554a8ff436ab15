/-
How bytes reach a terminal makes no difference to it. Bytes come over the link in any chunks and are
read in polls of any size; every such schedule does what one feed of all its bytes and one poll of
as many bytes as it read would do (`performAll_traffic`). A poll reads from the front what waits, up
to its limit, and nothing else touches the bytes.
-/
import SerialConsole.Proofs.Console.Listener
import Mathlib.Data.List.Basic

namespace SerialConsole

theorem Outcome.andThen_congr {S T H : Type} {o : Outcome S H} {f g : S → Outcome T H}
    (h : f o.state = g o.state) : o.andThen f = o.andThen g := by
  unfold andThen
  rw [h]

/-- Bytes come over the link, or are read from it. -/
inductive Traffic
  | feed (bytes : List UInt8)
  | poll (count : Option Nat)

namespace Traffic

/-- The traffic as an operation of a terminal. -/
def operation {H : Type} : Traffic → Operation H
  | feed bytes => .feed bytes
  | poll count => .poll count

/-- All bytes that come, in order. -/
def fed : List Traffic → List UInt8
  | [] => []
  | feed bytes :: schedule => bytes ++ fed schedule
  | poll _ :: schedule => fed schedule

end Traffic

namespace Terminal

variable {capacity limit : Nat} {H : Type}

/-- How many bytes the polls of a schedule take from those that wait. -/
def consumed (t : Terminal capacity limit H) : List Traffic → Nat
  | [] => 0
  | .feed bytes :: schedule => (t.perform (.feed bytes)).state.consumed schedule
  | .poll count :: schedule =>
    let after := (t.perform (.poll count)).state
    (t.link.unread.length - after.link.unread.length) + after.consumed schedule

/-- Of the bytes at hand the console has got the first, in order and each once, and the others
still wait. -/
structure Intake (t : Terminal capacity limit H) (bytes taken : List UInt8)
    (o : Outcome (Terminal capacity limit H) H) : Prop where
  split : bytes = taken ++ o.state.link.unread
  console : o.state.console = (t.console.receiveAll taken).state
  style : o.state.link.breakStyle = t.link.breakStyle
  events : o.events = (t.console.receiveAll taken).events.flatMap t.link.breakStyle.write
  lines : o.lines = (t.console.receiveAll taken).lines

/-! ## Reading -/

theorem read_intake (t : Terminal capacity limit H) (count : Nat) :
    Intake t t.link.unread (t.link.unread.take count) (t.read count) :=
  ⟨(List.take_append_drop ..).symm, rfl, rfl, rfl, rfl⟩

@[simp] theorem read_zero (t : Terminal capacity limit H) : t.read 0 = { state := t } := by
  unfold read
  simp

/-- More than all cannot be read. -/
theorem read_min (t : Terminal capacity limit H) (count : Nat) :
    t.read (min count t.link.unread.length) = t.read count := by
  unfold read
  rw [← List.take_eq_take_min, ← List.drop_eq_drop_min]

/-- Reading on is reading more. -/
theorem read_add (t : Terminal capacity limit H) (first more : Nat) :
    t.read (first + more) = (t.read first).andThen (·.read more) := by
  unfold read
  rw [List.take_add, Console.receiveAll_append]
  ext1
  · simp
  · simp
  · simp

theorem perform_poll (t : Terminal capacity limit H) (count : Option Nat) :
    t.perform (.poll count) = t.read (count.getD t.link.unread.length) := by
  cases count <;> rfl

theorem poll_eq_read (t : Terminal capacity limit H) (count : Option Nat) :
    t.perform (.poll count) = t.read (min (count.getD t.link.unread.length) t.link.unread.length) := by
  rw [read_min, perform_poll]

/-- Bytes that come after those that are read may as well come before. -/
theorem read_feed (t : Terminal capacity limit H) (bytes : List UInt8) {count : Nat}
    (h : count ≤ t.link.unread.length) :
    (t.read count).andThen (·.perform (.feed bytes)) =
      (t.perform (.feed bytes)).andThen (·.read count) := by
  unfold perform read
  ext1
  · simp [List.take_append_of_le_length h, List.drop_append_of_le_length h]
  · simp [List.take_append_of_le_length h]
  · simp [List.take_append_of_le_length h]

/-! ## Schedules -/

theorem length_unread_poll (t : Terminal capacity limit H) (count : Option Nat) :
    t.link.unread.length - (t.perform (.poll count)).state.link.unread.length =
      min (count.getD t.link.unread.length) t.link.unread.length := by
  rw [poll_eq_read]
  show t.link.unread.length - (t.link.unread.drop _).length = _
  rw [List.length_drop]
  omega

/-- A schedule does what one feed and one poll do. -/
theorem performAll_traffic (t : Terminal capacity limit H) (schedule : List Traffic) :
    t.performAll (schedule.map Traffic.operation) =
      (t.perform (.feed (Traffic.fed schedule))).andThen (·.read (t.consumed schedule)) := by
  induction schedule generalizing t with
  | nil => simp [perform, consumed, Traffic.fed]
  | cons traffic schedule ih =>
    rw [List.map_cons, performAll_cons]
    cases traffic with
    | feed bytes =>
      have := ih (t.perform (.feed bytes)).state
      simpa [Traffic.operation, perform, Traffic.fed, consumed] using this
    | poll count =>
      -- the bytes that come after the poll may as well come before it
      have short := Nat.min_le_right (count.getD t.link.unread.length) t.link.unread.length
      have rest := ih (t.perform (.poll count)).state
      calc (t.perform (.poll count)).andThen (·.performAll (schedule.map Traffic.operation))
          = (t.perform (.poll count)).andThen fun s =>
              (s.perform (.feed (Traffic.fed schedule))).andThen
                (·.read ((t.perform (.poll count)).state.consumed schedule)) :=
            Outcome.andThen_congr rest
        _ = (t.perform (.feed (Traffic.fed schedule))).andThen
              (·.read (t.consumed (.poll count :: schedule))) := by
            rw [← Outcome.andThen_assoc, poll_eq_read, read_feed t _ short, ← poll_eq_read,
              Outcome.andThen_assoc]
            simp only [← read_add]
            rw [consumed, length_unread_poll]

/-- What a schedule takes are the first of the bytes that waited or came. -/
theorem performAll_intake (t : Terminal capacity limit H) (schedule : List Traffic) :
    Intake t (t.link.unread ++ Traffic.fed schedule)
      ((t.link.unread ++ Traffic.fed schedule).take (t.consumed schedule))
      (t.performAll (schedule.map Traffic.operation)) := by
  rw [performAll_traffic]
  have := read_intake (t.perform (.feed (Traffic.fed schedule))).state (t.consumed schedule)
  refine ⟨this.split, this.console, this.style, ?_, ?_⟩
  · simpa [perform] using this.events
  · simpa [perform] using this.lines

theorem consumed_le (t : Terminal capacity limit H) (schedule : List Traffic) :
    t.consumed schedule ≤ (t.link.unread ++ Traffic.fed schedule).length := by
  induction schedule generalizing t with
  | nil => exact Nat.zero_le _
  | cons traffic schedule ih =>
    cases traffic with
    | feed bytes =>
      have := ih (t.perform (.feed bytes)).state
      simpa [perform, Traffic.fed, consumed] using this
    | poll count =>
      have rest := ih (t.perform (.poll count)).state
      have left : (t.perform (.poll count)).state.link.unread.length ≤ t.link.unread.length := by
        rw [poll_eq_read]
        exact (List.drop_suffix ..).length_le
      rw [List.length_append] at rest ⊢
      rw [consumed, Traffic.fed]
      omega

/-- Two ways of cutting the same bytes into feeds and polls that read as many of them have the same
outcome, events and all, so handlers end in the same states; the bytes read are the first of those
at hand, in order, and each poll reads as many as wait up to its limit. -/
theorem performAll_traffic_congr (t : Terminal capacity limit H) (first second : List Traffic)
    (fed : Traffic.fed first = Traffic.fed second)
    (total : t.consumed first = t.consumed second) :
    let o := t.performAll (first.map Traffic.operation)
    let p := t.performAll (second.map Traffic.operation)
    (o = p ∧ ∀ (σ ε : Type) (respond : σ → Event H → σ × List ε) (s : σ),
        Event.replay respond s o.events = Event.replay respond s p.events) ∧
      (∃ taken, taken.length = t.consumed first ∧
        Intake t (t.link.unread ++ Traffic.fed first) taken o) ∧
      ∀ (u : Terminal capacity limit H) (count : Option Nat), ∃ taken,
        taken.length = min (count.getD u.link.unread.length) u.link.unread.length ∧
        Intake u u.link.unread taken (u.perform (.poll count)) := by
  intro o p
  have same : o = p := by
    show t.performAll _ = t.performAll _
    rw [performAll_traffic, performAll_traffic, fed, total]
  refine ⟨⟨same, fun _ _ respond s => by rw [same]⟩, ?_, fun u count => ?_⟩
  · refine ⟨_, ?_, performAll_intake t first⟩
    rw [List.length_take, Nat.min_eq_left (consumed_le t first)]
  · refine ⟨_, ?_, poll_eq_read u count ▸ read_intake u _⟩
    rw [List.length_take, Nat.min_eq_left (Nat.min_le_right ..)]

/-- A line of which the beginning has been read, a chunk too long for the terminal, and a poll that
stops before the newline. -/
theorem performAll_traffic_congr_cut :
    let t := ((fresh { echo := true } .bytes : Terminal 4 2 Nat).performAll
      [.register "ab".toList 0, .setAfterLine 1, .feed [97], .poll none]).state
    let first := [Traffic.feed [98, 99, 32, 100, 101, 10, 120], .poll none]
    let second := [Traffic.feed [98, 99], .poll (some 1), .poll (some 0),
      .feed [32, 100, 101, 10, 120], .poll (some 4), .poll none]
    Traffic.fed first = Traffic.fed second ∧ t.consumed first = t.consumed second ∧
      t.performAll (first.map Traffic.operation) = t.performAll (second.map Traffic.operation) := by
  intro t first second
  have fed : Traffic.fed first = Traffic.fed second := rfl
  have total : t.consumed first = t.consumed second := by decide +kernel
  exact ⟨fed, total, (performAll_traffic_congr t first second fed total).1.1⟩

end Terminal

end SerialConsole
