/-
What calls do to commands. A handler may be another each time it has been called; `next` says which. A
call reaches the command at its place and leaves the others alone, so after any events a command is what
its own calls have made of it (`getElem?_afterEvents`), under the name it had. Commands that are added
do not get in the way: every command stays where it is (`Evolves.trans`), and so does every name
(`Evolves.names_prefix`).
-/
import SerialConsole.Console.Event
import SerialConsole.Proofs.Command.Places
import Mathlib.Data.List.Basic

namespace SerialConsole

variable {limit : Nat} {H : Type} {next : H → Arguments → H}

/-- The arguments with which the command at the place is called, in order. -/
def Event.callsOf (place : Nat) : List (Event H) → List Arguments
  | [] => []
  | .command i _ arguments :: events =>
    if i = place then arguments :: callsOf place events else callsOf place events
  | _ :: events => callsOf place events

theorem Event.callsOf_append (place : Nat) (first more : List (Event H)) :
    callsOf place (first ++ more) = callsOf place first ++ callsOf place more := by
  induction first with
  | nil => rfl
  | cons e first ih =>
    cases e with
    | command i handler arguments =>
      by_cases here : i = place <;> simp [callsOf, here, ih]
    | byte | lineBreak | unmatched | finished => exact ih

/-- The command when it has been called with all of the arguments. -/
def Command.called (next : H → Arguments → H) (c : Command limit H) (calls : List Arguments) :
    Command limit H :=
  { c with handler := calls.foldl next c.handler }

namespace Command

@[simp] theorem called_nil (c : Command limit H) : c.called next [] = c := rfl

theorem called_append (c : Command limit H) (first more : List Arguments) :
    c.called next (first ++ more) = (c.called next first).called next more := by
  unfold called
  rw [List.foldl_append]

end Command

namespace Registry

variable {r r' r'' : Registry limit H}

/-! ## Calls -/

/-- The registry when the command at the place has been called. -/
def called (next : H → Arguments → H) (r : Registry limit H) (place : Nat) (arguments : Arguments) :
    Registry limit H :=
  ⟨r.commands.modify place (·.called next [arguments])⟩

/-- The registry when the commands have been called that run among the events. -/
def afterEvents (next : H → Arguments → H) (r : Registry limit H) : List (Event H) → Registry limit H
  | [] => r
  | .command i _ arguments :: events => (r.called next i arguments).afterEvents next events
  | _ :: events => r.afterEvents next events

theorem getElem?_called (r : Registry limit H) (place : Nat) (arguments : Arguments) (i : Nat) :
    (r.called next place arguments).commands[i]? =
      r.commands[i]?.map fun c => if place = i then c.called next [arguments] else c :=
  List.getElem?_modify ..

/-- After events a command is what its own calls have made of it. -/
theorem getElem?_afterEvents (r : Registry limit H) (events : List (Event H)) (i : Nat) :
    (r.afterEvents next events).commands[i]? =
      r.commands[i]?.map (·.called next (Event.callsOf i events)) := by
  induction events generalizing r with
  | nil => simp [afterEvents, Event.callsOf]
  | cons e events ih =>
    cases e with
    | command place handler arguments =>
      rw [afterEvents, ih, getElem?_called, Option.map_map, Event.callsOf]
      by_cases here : place = i
      · simp only [here, if_true]
        exact Option.map_congr fun c _ => (c.called_append [arguments] _).symm
      · simp only [here, if_false]
        rfl
    | byte | lineBreak | unmatched | finished => exact ih r

theorem getElem?_names (r : Registry limit H) (i : Nat) :
    r.names[i]? = r.commands[i]?.map (·.name) :=
  List.getElem?_map ..

theorem names_afterEvents (r : Registry limit H) (events : List (Event H)) :
    (r.afterEvents next events).names = r.names := by
  refine List.ext_getElem? fun i => ?_
  rw [getElem?_names, getElem?_names, getElem?_afterEvents, Option.map_map]
  rfl

/-- Handlers that calls leave as they are stay as they are. -/
theorem afterEvents_const (r : Registry limit H) (events : List (Event H)) :
    r.afterEvents (fun handler _ => handler) events = r := by
  obtain ⟨commands⟩ := r
  have same (c : Command limit H) (calls : List Arguments) :
      c.called (fun handler _ => handler) calls = c := by
    unfold Command.called
    rw [List.foldl_fixed]
  refine congrArg Registry.mk (List.ext_getElem? fun i => ?_)
  rw [getElem?_afterEvents]
  simp [same]

/-! ## From one moment to another -/

/-- What becomes of a registry while there are such events: a command stays where it is and keeps its
name, and its handler is what its own calls have made of it. Others may have come behind. -/
def Evolves (next : H → Arguments → H) (events : List (Event H)) (r r' : Registry limit H) : Prop :=
  ∀ (i : Nat) (c : Command limit H), r.commands[i]? = some c →
    r'.commands[i]? = some (c.called next (Event.callsOf i events))

theorem Evolves.refl (r : Registry limit H) : Evolves next [] r r := by
  intro i c there
  exact there

theorem evolves_afterEvents (r : Registry limit H) (events : List (Event H)) :
    Evolves next events r (r.afterEvents next events) := by
  intro i c there
  rw [getElem?_afterEvents, there]
  rfl

theorem evolves_add (r : Registry limit H) (name : Text) (handler : H) :
    Evolves next [] r (r.add name handler) := by
  intro i c there
  have bound : i < r.commands.length := (List.getElem?_eq_some_iff.1 there).1
  rw [add, List.getElem?_append_left bound, there]
  rfl

theorem Evolves.trans {first more : List (Event H)} (h : Evolves next first r r')
    (h' : Evolves next more r' r'') : Evolves next (first ++ more) r r'' := by
  intro i c there
  rw [h' i _ (h i c there), Event.callsOf_append, Command.called_append]

theorem Evolves.names_prefix {events : List (Event H)} (h : Evolves next events r r') :
    r.names <+: r'.names := by
  rw [List.prefix_iff_getElem?]
  intro i bound
  have name := List.getElem?_eq_getElem bound
  rw [getElem?_names] at name
  obtain ⟨c, there, same⟩ := Option.map_eq_some_iff.1 name
  rw [getElem?_names, h i c there, ← same]
  rfl

end Registry

end SerialConsole
