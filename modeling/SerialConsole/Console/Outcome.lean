/-
What comes of using a console: a new state, the events on the way to it, and the number of lines
they completed. Outcomes follow one another, and how they are grouped makes no difference.
-/
import SerialConsole.Console.Event

namespace SerialConsole

/-- A new state, the events on the way to it, and the number of lines they completed. -/
structure Outcome (S H : Type) where
  state : S
  events : List (Event H) := []
  lines : Nat := 0

namespace Outcome

variable {S T U H : Type}

@[ext] theorem ext {o p : Outcome S H} (state : o.state = p.state) (events : o.events = p.events)
    (lines : o.lines = p.lines) : o = p := by
  cases o; cases p; simp_all

/-- One thing after another. -/
def andThen (o : Outcome S H) (f : S → Outcome T H) : Outcome T H where
  state := (f o.state).state
  events := o.events ++ (f o.state).events
  lines := o.lines + (f o.state).lines

@[simp] theorem state_andThen (o : Outcome S H) (f : S → Outcome T H) :
    (o.andThen f).state = (f o.state).state := rfl

@[simp] theorem events_andThen (o : Outcome S H) (f : S → Outcome T H) :
    (o.andThen f).events = o.events ++ (f o.state).events := rfl

@[simp] theorem lines_andThen (o : Outcome S H) (f : S → Outcome T H) :
    (o.andThen f).lines = o.lines + (f o.state).lines := rfl

@[simp] theorem andThen_of_nothing (s : S) (f : S → Outcome T H) :
    (⟨s, [], 0⟩ : Outcome S H).andThen f = f s := by
  ext <;> simp

theorem andThen_assoc (o : Outcome S H) (f : S → Outcome T H) (g : T → Outcome U H) :
    (o.andThen f).andThen g = o.andThen fun s => (f s).andThen g := by
  ext <;> simp [Nat.add_assoc]

end Outcome

end SerialConsole
