/-
The session ends. Once the reader has hung up, every step of the loop brings it nearer to its end:
a byte goes from the channel to those taken from it, or from these to the console, or the loop finds
the channel closed and goes on to its test (`left_advance`). So the loop ends in every order that
lets the reader send all and hang up and then the loop take steps enough (`done_of_enough`); and it
ends in the even order, in which it never falls behind (`done_evenly`).
-/
import SerialConsole.Session.Basic
import Mathlib.Data.List.Count

namespace SerialConsole.Session

variable {input : List UInt8} {steps : Nat} {s : Session}

theorem run_append (s : Session) (first more : List Actor) :
    (s.run (first ++ more)).1 = ((s.run first).1.run more).1 := by
  induction first generalizing s with
  | nil => rfl
  | cons actor first ih => exact ih (s.step actor).1

/-! ## What the reader has done -/

/-- A session on the input after so many steps of the reader. -/
structure Sent (input : List UInt8) (steps : Nat) (s : Session) : Prop where
  unsent : s.unsent = input.drop steps
  connected : s.connected = true ↔ steps ≤ input.length
  held : s.channel.length + s.pending.length + s.unsent.length ≤ input.length
  tested : s.stage = .test → s.pending = []

theorem sent_start (input : List UInt8) : Sent input 0 { unsent := input } where
  unsent := rfl
  connected := by simp
  held := by simp
  tested := fun _ => rfl

theorem Sent.send (h : Sent input steps s) : Sent input (steps + 1) s.send := by
  have unsent := h.unsent
  have held := h.held
  unfold Session.send
  split
  · next b more sends =>
    rw [sends] at unsent held
    have short : steps < input.length := by
      have := congrArg List.length unsent
      rw [List.length_drop, List.length_cons] at this
      omega
    rw [if_pos (h.connected.2 (Nat.le_of_lt short))]
    refine ⟨?_, ?_, ?_, h.tested⟩
    · rw [← List.tail_drop, ← unsent]
      rfl
    · exact ⟨fun _ => short, fun _ => h.connected.2 (Nat.le_of_lt short)⟩
    · simp only [List.length_append, List.length_cons, List.length_nil] at held ⊢
      omega
  · next sends =>
    have all : input.length ≤ steps := by
      rw [sends] at unsent
      exact List.drop_eq_nil_iff.1 unsent.symm
    refine ⟨?_, ?_, ?_, h.tested⟩
    · rw [sends, List.drop_of_length_le (by omega)]
    · simp
      omega
    · exact held

theorem Sent.advance (h : Sent input steps s) : Sent input steps s.advance.1 := by
  have held := h.held
  unfold Session.advance
  cases stage : s.stage with
  | test =>
    simp only
    split
    · exact { h with tested := nofun }
    · exact { h with tested := nofun }
  | pump =>
    simp only
    split
    · next b channel waiting =>
      refine { h with held := ?_, tested := nofun }
      simp only [waiting, List.length_append, List.length_cons, List.length_nil] at held ⊢
      omega
    · exact { h with tested := nofun }
  | read =>
    simp only
    split
    · next b pending waiting =>
      refine { h with held := ?_, tested := nofun }
      simp only [waiting, List.length_cons] at held ⊢
      omega
    · next empty => exact { h with tested := fun _ => empty }
  | done => exact h

theorem Sent.step (h : Sent input steps s) (actor : Actor) :
    Sent input (steps + [actor].count .reader) (s.step actor).1 := by
  cases actor with
  | reader => exact h.send
  | loop => exact h.advance

theorem Sent.run (h : Sent input steps s) (order : List Actor) :
    Sent input (steps + order.count .reader) (s.run order).1 := by
  induction order generalizing s steps with
  | nil => exact h
  | cons actor order ih =>
    have count : steps + [actor].count .reader + order.count .reader =
        steps + (actor :: order).count .reader := by
      rw [List.count_singleton, List.count_cons]
      omega
    exact count ▸ ih (h.step actor)

/-! ## How far the loop is from its end -/

/-- The steps from a stage to the end, if nothing is held and the reader has hung up: a loop that has
not found it gone has to look once more. -/
def ahead (closed : Bool) : Stage → Nat
  | .done => 0
  | .test => if closed then 1 else 4
  | .read => if closed then 2 else 5
  | .pump => 3

theorem ahead_le (closed : Bool) (stage : Stage) : ahead closed stage ≤ 5 := by
  cases stage <;> cases closed <;> decide

theorem ahead_pos (closed : Bool) {stage : Stage} (goesOn : stage ≠ .done) :
    0 < ahead closed stage := by
  cases stage with
  | done => exact absurd rfl goesOn
  | test | pump | read => cases closed <;> decide

/-- A bound on the steps that the loop takes before it ends, if the reader has hung up. -/
def left (s : Session) : Nat :=
  if s.stage = .done then 0
  else 3 * s.channel.length + 2 * s.pending.length + ahead s.closed s.stage

theorem left_le (h : Sent input steps s) : s.left ≤ 3 * input.length + 5 := by
  have held := h.held
  have := ahead_le s.closed s.stage
  unfold left
  split <;> omega

theorem done_of_left (nothing : s.left = 0) : s.stage = .done := by
  by_contra goesOn
  have := ahead_pos s.closed goesOn
  rw [left, if_neg goesOn] at nothing
  omega

/-- Every step of the loop counts. -/
theorem left_advance (gone : s.connected = false) (tested : s.stage = .test → s.pending = []) :
    s.advance.1.left ≤ s.left - 1 := by
  unfold advance
  cases stage : s.stage with
  | done => simp [left, stage]
  | test =>
    -- a test that is not the last has not found the channel closed
    have unclosed : (s.quitting || s.isClosed) = false → s.closed = false := by
      simp [isClosed, tested stage]
    simp only
    split
    · exact Nat.zero_le _
    · next goesOn =>
      have := unclosed (by simpa using goesOn)
      simp [left, stage, ahead, this]
  | pump =>
    simp only
    split
    · next b channel waiting =>
      simp only [left, stage, ahead, waiting, List.length_append, List.length_cons, List.length_nil,
        reduceCtorEq, if_false]
      omega
    · next empty => simp [left, stage, ahead, empty, gone]
  | read =>
    simp only
    split
    · next b pending waiting =>
      simp only [left, stage, ahead, waiting, List.length_cons, reduceCtorEq, if_false]
      split <;> omega
    · next empty => cases closed : s.closed <;> simp [left, stage, ahead, empty, closed]

theorem left_step (h : Sent input steps s) (gone : input.length < steps) (actor : Actor) :
    (s.step actor).1.left ≤ s.left - [actor].count .loop := by
  cases actor with
  | reader =>
    have nothing : s.unsent = [] := by
      rw [h.unsent]
      exact List.drop_of_length_le (by omega)
    show s.send.left ≤ s.left - 0
    unfold send
    rw [nothing]
    exact Nat.le_refl _
  | loop =>
    refine left_advance ?_ h.tested
    rw [Bool.eq_false_iff, ne_eq, h.connected]
    omega

theorem left_run (h : Sent input steps s) (gone : input.length < steps) (order : List Actor) :
    (s.run order).1.left ≤ s.left - order.count .loop := by
  induction order generalizing s steps with
  | nil => exact Nat.le_refl _
  | cons actor order ih =>
    have first := left_step h gone actor
    have more := ih (h.step actor) (Nat.lt_add_right _ gone)
    calc (s.run (actor :: order)).1.left ≤ (s.step actor).1.left - order.count .loop := more
      _ ≤ s.left - (actor :: order).count .loop := by
        rw [List.count_cons]
        rw [List.count_singleton] at first
        omega

/-- The loop ends in every order in which the reader takes a step for each byte and one to hang up,
and then the loop takes steps enough for what is held. -/
theorem done_of_enough (input : List UInt8) (first more : List Actor)
    (sends : input.length < first.count .reader) (enough : 3 * input.length + 5 ≤ more.count .loop) :
    (run { unsent := input } (first ++ more)).1.stage = .done := by
  have sent := (sent_start input).run first
  rw [Nat.zero_add] at sent
  refine done_of_left ?_
  rw [run_append]
  have last := left_run sent sends more
  have bound := left_le sent
  omega

/-! ## The even order -/

theorem run_done {s : Session} (done : s.stage = .done) (order : List Actor) :
    (s.run order).1.stage = .done := by
  induction order generalizing s with
  | nil => exact done
  | cons actor order ih =>
    refine ih ?_
    cases actor with
    | reader =>
      show s.send.stage = .done
      unfold send
      split
      · split <;> exact done
      · exact done
    | loop =>
      show s.advance.1.stage = .done
      unfold advance
      rw [done]
      exact done

/-- The loop is at its test, and has dealt with all that was sent. -/
structure Waiting (s : Session) : Prop where
  stage : s.stage = .test
  connected : s.connected = true
  channel : s.channel = []
  pending : s.pending = []
  closed : s.closed = false

/-- A round deals with one byte, unless the session was to end before. -/
theorem run_round (h : Waiting s) {b : UInt8} {unsent : List UInt8} (sends : s.unsent = b :: unsent) :
    (s.run round).1.stage = .done ∨ (Waiting (s.run round).1 ∧ (s.run round).1.unsent = unsent) := by
  obtain ⟨_, _, _, _, _, console, quitting, _⟩ := s
  obtain ⟨rfl, rfl, rfl, rfl, rfl⟩ := h
  obtain rfl := sends
  cases quitting with
  | true =>
    left
    rfl
  | false =>
    right
    exact ⟨⟨rfl, rfl, rfl, rfl, rfl⟩, rfl⟩

/-- In the last round the reader hangs up and the loop ends. -/
theorem run_last_round (h : Waiting s) (all : s.unsent = []) : (s.run round).1.stage = .done := by
  obtain ⟨_, _, _, _, _, console, quitting, _⟩ := s
  obtain ⟨rfl, rfl, rfl, rfl, rfl⟩ := h
  obtain rfl := all
  cases quitting <;> rfl

theorem run_evenly (h : Waiting s) : (s.run (evenly s.unsent.length)).1.stage = .done := by
  unfold evenly
  generalize sends : s.unsent = unsent
  induction unsent generalizing s with
  | nil => exact run_last_round h sends
  | cons b unsent ih =>
    rw [List.length_cons, List.replicate_succ, List.flatten_cons, run_append]
    rcases run_round h sends with done | ⟨waiting, unsent⟩
    · exact run_done done _
    · exact ih waiting unsent

theorem done_evenly (input : List UInt8) (rawMode : Except Text Unit) :
    (complete input rawMode).1.stage = .done :=
  run_evenly (s := { unsent := input }) ⟨rfl, rfl, rfl, rfl, rfl⟩

end SerialConsole.Session
