/-
The commands in the order they were added. Several may answer to one token; the first of them is
the one selected, so adding a command never changes what an earlier one answers to.
-/
import SerialConsole.Command.Basic

namespace SerialConsole

/-- Commands in the order they were added. -/
structure Registry (limit : Nat) (H : Type) where
  commands : List (Command limit H)

namespace Registry

variable {limit : Nat} {H : Type}

/-- A registry without commands. -/
def empty : Registry limit H := ⟨[]⟩

/-- The registry with a command after all others. -/
def add (r : Registry limit H) (name : Text) (handler : H) : Registry limit H :=
  ⟨r.commands ++ [.ofName name handler]⟩

/-- The number of commands. -/
def size (r : Registry limit H) : Nat := r.commands.length

/-- There are no commands. -/
def isEmpty (r : Registry limit H) : Bool := r.commands.isEmpty

/-- The names in order. -/
def names (r : Registry limit H) : List Text := r.commands.map (·.name)

/-- The command at a place. -/
def get (r : Registry limit H) (i : Fin r.size) : Command limit H := r.commands.get i

/-- The first command that answers to the token. -/
def find? (r : Registry limit H) (token : Text) : Option (Command limit H) :=
  r.commands.find? (·.answersTo token)

/-- The place of the first command that answers to the token. -/
def index? (r : Registry limit H) (token : Text) : Option (Fin r.size) :=
  r.commands.findFinIdx? (·.answersTo token)

@[simp] theorem names_add (r : Registry limit H) (name : Text) (handler : H) :
    (r.add name handler).names = r.names ++ [Text.clip name limit] := by
  simp [names, add]

@[simp] theorem size_add (r : Registry limit H) (name : Text) (handler : H) :
    (r.add name handler).size = r.size + 1 := by
  simp [size, add]

@[simp] theorem length_names (r : Registry limit H) : r.names.length = r.size := by
  simp [names, size]

end Registry

end SerialConsole
