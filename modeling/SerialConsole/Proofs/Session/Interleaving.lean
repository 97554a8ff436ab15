/-
The order in which reader and loop take their steps makes no difference to the session, as long as
nothing follows a line that runs `exit`. Every byte of the input is at every moment in one of four
places: with the console, taken from the channel, on the channel, or not sent yet (`Progress.whole`).
Each step of either keeps this and what it implies for the console and the text (`step_progress`),
so whatever the order, when the loop ends the console has the whole input (`Progress.given_eq`).
-/
import SerialConsole.Session.Basic
import Mathlib.Data.List.Infix

namespace SerialConsole

namespace Routine

/-! ## What a console of the session does with bytes -/

/-- The event ends the session. -/
def isExit : Event Routine → Bool
  | .command _ routine _ => routine == .exit
  | _ => false

/-- A line among the bytes runs `exit`. -/
def exits (bytes : List UInt8) : Bool := (console.receiveAll bytes).events.any isExit

/-- What is printed for the bytes. -/
def printed (bytes : List UInt8) : Text :=
  (Event.replay respond false (console.receiveAll bytes).events).2

/-- Only the whole input, if any beginning of it, runs `exit`. -/
def NothingAfterExit (input : List UInt8) : Prop :=
  ∀ first ∈ input.inits, exits first = true → first = input

instance (input : List UInt8) : Decidable (NothingAfterExit input) :=
  inferInstanceAs (Decidable (∀ first ∈ input.inits, exits first = true → first = input))

theorem respond_fst (quitting : Bool) (e : Event Routine) :
    (respond quitting e).1 = (quitting || isExit e) := by
  cases e <;> simp [respond, isExit]

/-- The session is to end once it was to end or an event ends it. -/
theorem replay_respond_fst (quitting : Bool) (events : List (Event Routine)) :
    (Event.replay respond quitting events).1 = (quitting || events.any isExit) := by
  induction events generalizing quitting with
  | nil => simp [Event.replay]
  | cons e events ih =>
    show (Event.replay respond (respond quitting e).1 events).1 = _
    rw [ih, respond_fst, List.any_cons, Bool.or_assoc]

theorem receiveAll_concat (bytes : List UInt8) (b : UInt8) :
    (console.receiveAll (bytes ++ [b])).events =
      (console.receiveAll bytes).events ++ ((console.receiveAll bytes).state.receive b).events := by
  rw [Console.receiveAll_append]
  simp

theorem exits_concat (bytes : List UInt8) (b : UInt8) :
    exits (bytes ++ [b]) =
      (Event.replay respond (exits bytes) ((console.receiveAll bytes).state.receive b).events).1 := by
  rw [replay_respond_fst]
  unfold exits
  rw [receiveAll_concat, List.any_append]

theorem printed_concat (bytes : List UInt8) (b : UInt8) :
    printed (bytes ++ [b]) = printed bytes ++
      (Event.replay respond (exits bytes) ((console.receiveAll bytes).state.receive b).events).2 := by
  have quits : (Event.replay respond false (console.receiveAll bytes).events).1 = exits bytes := by
    rw [replay_respond_fst, Bool.false_or, exits]
  unfold printed
  rw [receiveAll_concat, Event.replay_append, quits]

end Routine

namespace Session

/-! ## What the console is given -/

/-- The bytes that a step gives to the console. -/
def gives (s : Session) : Actor → List UInt8
  | .reader => []
  | .loop => if s.stage = .read then s.pending.take 1 else []

/-- The bytes that an order of steps gives to the console. -/
def given (s : Session) : List Actor → List UInt8
  | [] => []
  | actor :: actors => s.gives actor ++ (s.step actor).1.given actors

/-- How a session on the input stands when the console has been given some bytes and a text has
been printed. -/
structure Progress (input bytes : List UInt8) (text : Text) (s : Session) : Prop where
  whole : bytes ++ s.pending ++ s.channel ++ s.unsent = input
  hungUp : s.connected = false → s.unsent = []
  closed : s.closed = true → s.connected = false ∧ s.channel = []
  console : s.console = (Routine.console.receiveAll bytes).state
  quitting : s.quitting = Routine.exits bytes
  text : text = Routine.printed bytes ++ if s.stage = .done then farewell else []
  ended : s.stage = .done → s.quitting = true ∨ s.isClosed = true

theorem progress_start (input : List UInt8) : Progress input [] [] { unsent := input } where
  whole := rfl
  hungUp := nofun
  closed := nofun
  console := rfl
  quitting := rfl
  text := rfl
  ended := nofun

variable {input bytes : List UInt8} {text : Text} {s : Session}

/-! ## One step -/

/-- The bytes on the channel and those not sent yet are the same together, and a reader that has
hung up stays away. -/
theorem send_progress (h : Progress input bytes text s) : Progress input bytes text s.send := by
  unfold send
  split
  · next b unsent sends =>
    split
    · next connected =>
      refine { h with whole := ?_, hungUp := ?_, closed := ?_ }
      · simpa [sends] using h.whole
      · exact fun gone => absurd connected (by simpa using gone)
      · exact fun closed => absurd connected (by simp [(h.closed closed).1])
    · exact h
  · next sends =>
    exact { h with hungUp := fun _ => sends, closed := fun closed => ⟨rfl, (h.closed closed).2⟩ }

theorem test_progress (h : Progress input bytes text s) (stage : s.stage = .test) :
    Progress input bytes (text ++ s.advance.2) s.advance.1 := by
  have sofar := h.text
  rw [stage] at sofar
  simp only [advance, stage]
  split
  · next ended =>
    refine { h with text := ?_, ended := fun _ => by simpa [isClosed] using ended }
    simp [sofar]
  · refine { h with text := ?_, ended := nofun }
    simp [sofar]

/-- The loop finds the reader gone only when the channel is empty, so nothing is on its way then. -/
theorem pump_progress (h : Progress input bytes text s) (stage : s.stage = .pump) :
    Progress input bytes (text ++ s.advance.2) s.advance.1 := by
  have sofar := h.text
  rw [stage] at sofar
  simp only [advance, stage]
  split
  -- a byte goes from the channel to those taken from it
  · next b channel waiting =>
    refine { h with whole := ?_, closed := ?_, text := ?_, ended := nofun }
    · simpa [waiting] using h.whole
    · exact fun closed => absurd (h.closed closed).2 (by simp [waiting])
    · simpa using sofar
  · next empty =>
    refine { h with closed := ?_, text := ?_, ended := nofun }
    · intro closed
      rcases Bool.or_eq_true .. ▸ closed with before | gone
      · exact h.closed before
      · exact ⟨by simpa using gone, empty⟩
    · simpa using sofar

/-- The console goes on from the bytes it was given to one byte more. -/
theorem read_progress (h : Progress input bytes text s) (stage : s.stage = .read) :
    Progress input (bytes ++ s.pending.take 1) (text ++ s.advance.2) s.advance.1 := by
  have sofar := h.text
  rw [stage] at sofar
  simp only [advance, stage]
  split
  · next b pending waiting =>
    refine ⟨?_, h.hungUp, h.closed, ?_, ?_, ?_, nofun⟩
    · simpa [waiting] using h.whole
    · simp [waiting, Console.receiveAll_append, h.console]
    · simp [waiting, Routine.exits_concat, h.console, h.quitting]
    · simp [waiting, Routine.printed_concat, h.console, h.quitting, sofar]
  · next empty =>
    have nothing : s.pending.take 1 = [] := by rw [empty, List.take_nil]
    rw [nothing, List.append_nil]
    refine { h with text := ?_, ended := nofun }
    simpa using sofar

theorem step_progress (h : Progress input bytes text s) (actor : Actor) :
    Progress input (bytes ++ s.gives actor) (text ++ (s.step actor).2) (s.step actor).1 := by
  cases actor with
  | reader =>
    show Progress input (bytes ++ []) (text ++ []) s.send
    rw [List.append_nil, List.append_nil]
    exact send_progress h
  | loop =>
    show Progress input (bytes ++ s.gives .loop) (text ++ s.advance.2) s.advance.1
    cases stage : s.stage with
    | test => simpa [gives, stage] using test_progress h stage
    | pump => simpa [gives, stage] using pump_progress h stage
    | read => simpa [gives, stage] using read_progress h stage
    | done => simpa [gives, advance, stage] using h

/-! ## Any order of steps -/

theorem run_progress (h : Progress input bytes text s) (order : List Actor) :
    Progress input (bytes ++ s.given order) (text ++ (s.run order).2) (s.run order).1 := by
  -- the bytes given and the text so far grow along the way
  induction order generalizing bytes text s with
  | nil => simpa [given, run] using h
  | cons actor order ih => simpa [given, run] using ih (step_progress h actor)

namespace Progress

/-- A loop that finds nothing more can come has everything. -/
theorem nothing_left (h : Progress input bytes text s) (closed : s.isClosed = true) :
    s.pending = [] ∧ s.channel = [] ∧ s.unsent = [] := by
  obtain ⟨found, pending⟩ := Bool.and_eq_true .. ▸ closed
  obtain ⟨gone, channel⟩ := h.closed found
  exact ⟨List.isEmpty_iff.1 pending, channel, h.hungUp gone⟩

/-- When the loop has ended, the console has been given the whole input. -/
theorem given_eq (h : Progress input bytes text s) (last : Routine.NothingAfterExit input)
    (done : s.stage = .done) : bytes = input := by
  rcases h.ended done with quitting | closed
  · have first : bytes <+: input := by
      rw [← h.whole, List.append_assoc, List.append_assoc]
      exact List.prefix_append ..
    exact last bytes ((List.mem_inits ..).2 first) (h.quitting ▸ quitting)
  · obtain ⟨pending, channel, unsent⟩ := h.nothing_left closed
    simpa [pending, channel, unsent] using h.whole

end Progress

/-- In every order of the steps of reader and loop: a loop that finds nothing more can come leaves
nothing on the channel or taken from it; and if nothing follows a line that runs `exit`, a loop that
has ended has given the console the whole input, in order and each byte once, and what is printed is
what the console prints for it and the farewell, the same as in any other order that ends the loop. -/
theorem done_in_any_order (input : List UInt8) :
    let start : Session := { unsent := input }
    (∀ order, (start.run order).1.isClosed = true →
      (start.run order).1.channel = [] ∧ (start.run order).1.pending = []) ∧
    (Routine.NothingAfterExit input → ∀ order, (start.run order).1.stage = .done →
      start.given order = input ∧
      (start.run order).1.console = (Routine.console.receiveAll input).state ∧
      (start.run order).2 = Routine.printed input ++ farewell ∧
      ∀ other, (start.run other).1.stage = .done → (start.run other).2 = (start.run order).2) := by
  intro start
  have progress (order : List Actor) :
      Progress input (start.given order) (start.run order).2 (start.run order).1 :=
    run_progress (progress_start input) order
  refine ⟨fun order closed => ?_, fun last order done => ?_⟩
  · obtain ⟨pending, channel, -⟩ := (progress order).nothing_left closed
    exact ⟨channel, pending⟩
  · have whole := (progress order).given_eq last done
    have prints (other : List Actor) (ended : (start.run other).1.stage = .done) :
        (start.run other).2 = Routine.printed input ++ farewell := by
      rw [(progress other).text, (progress other).given_eq last ended, if_pos ended]
    refine ⟨whole, ?_, prints order done, fun other ended => ?_⟩
    · rw [(progress order).console, whole]
    · rw [prints other ended, prints order done]

/-- The loop looks before anything has come, then takes the line from the channel while it is still
being sent, and reads it in two turns. -/
theorem done_in_any_order_exit :
    let input := "exit\n".toUTF8.toList
    let start : Session := { unsent := input }
    let order := List.replicate 4 .loop ++ [.reader, .loop, .reader, .reader, .loop, .loop] ++
      List.replicate 9 .loop ++ List.replicate 3 .reader ++ List.replicate 12 .loop
    Routine.NothingAfterExit input ∧ (start.run order).1.stage = .done ∧ start.given order = input := by
  intro input start order
  have last : Routine.NothingAfterExit input := by decide +kernel
  have done : (start.run order).1.stage = .done := by decide +kernel
  exact ⟨last, done, ((done_in_any_order input).2 last order done).1⟩

end Session

end SerialConsole
