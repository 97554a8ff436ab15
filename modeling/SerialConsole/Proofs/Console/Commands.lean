/-
The commands of a terminal in use. Nothing but adding a command changes which there are
(`registry_perform`), and with handlers that calls change (`live`) it is still so: the names are those
that were added (`names_liveAll`), and from one moment to another every command stays where it is
(`evolves_liveAll`). So what a token selects it goes on selecting, and what it does not select yet it can
only select among the commands that are added later (`registry_append_only`).
-/
import SerialConsole.Proofs.Command.Calling
import SerialConsole.Proofs.Console.Listener
import SerialConsole.Proofs.Console.Reach

namespace SerialConsole

variable {capacity limit : Nat} {H : Type}

/-! ## What changes the commands -/

theorem Console.registry_receive (c : Console capacity limit H) (b : UInt8) :
    (c.receive b).state.registry = c.registry := by
  unfold receive
  split
  · rfl
  · split <;> rfl

theorem Console.registry_receiveAll (c : Console capacity limit H) (bytes : List UInt8) :
    (c.receiveAll bytes).state.registry = c.registry := by
  induction bytes generalizing c with
  | nil => rfl
  | cons b bytes ih => exact (ih _).trans (c.registry_receive b)

/-- Dispatching a token calls the command that it selects. -/
theorem Console.getElem?_afterEvents_dispatch {next : H → Arguments → H}
    (c : Console capacity limit H) (token : Text) (arguments : Arguments) (i : Nat) :
    (c.registry.afterEvents next (c.dispatch token arguments)).commands[i]? =
      c.registry.commands[i]?.map fun command =>
        if c.registry.place? token = some i then command.called next [arguments] else command := by
  rw [Registry.getElem?_afterEvents]
  unfold dispatch Registry.place?
  cases c.registry.index? token with
  | none =>
    have nothing : Event.callsOf i (c.fallback.map (Event.unmatched · token)).toList = [] := by
      cases c.fallback <;> rfl
    simp [nothing]
  | some j => by_cases here : (j : Nat) = i <;> simp [Event.callsOf, here]

namespace Terminal

theorem registry_read (t : Terminal capacity limit H) (count : Nat) :
    (t.read count).state.console.registry = t.console.registry :=
  t.console.registry_receiveAll _

/-- An operation adds the command that it registers, and changes no others. -/
theorem registry_perform (t : Terminal capacity limit H) (op : Operation H) :
    ((t.perform op).state.console.registry = t.console.registry ∧ Operation.registered [op] = []) ∨
    ∃ name handler, (t.perform op).state.console.registry = t.console.registry.add name handler ∧
      Operation.registered [op] = [name] := by
  cases op with
  | register name handler => exact .inr ⟨name, handler, rfl, rfl⟩
  | poll count =>
    cases count with
    | none => exact .inl ⟨t.registry_read _, rfl⟩
    | some count => exact .inl ⟨t.registry_read count, rfl⟩
  | setFallback | setAfterLine | setEcho | feed | clear => exact .inl ⟨rfl, rfl⟩

/-! ## Handlers that calls change -/

/-- One use of a terminal with handlers that are others when they have been called. The console never
looks into them, so the calls of the use may as well be made at its end. -/
def live (next : H → Arguments → H) (t : Terminal capacity limit H) (op : Operation H) :
    Outcome (Terminal capacity limit H) H :=
  let o := t.perform op
  { o with state.console.registry := o.state.console.registry.afterEvents next o.events }

/-- Several uses in turn. -/
def liveAll (next : H → Arguments → H) (t : Terminal capacity limit H) :
    List (Operation H) → Outcome (Terminal capacity limit H) H
  | [] => { state := t }
  | op :: ops => (t.live next op).andThen (·.liveAll next ops)

variable {next : H → Arguments → H}

theorem names_live (t : Terminal capacity limit H) (op : Operation H) :
    (t.live next op).state.console.registry.names =
      t.console.registry.names ++ (Operation.registered [op]).map (Text.clip · limit) := by
  refine (Registry.names_afterEvents ..).trans ?_
  rcases t.registry_perform op with ⟨same, none⟩ | ⟨name, handler, added, one⟩
  · rw [same, none, List.map_nil, List.append_nil]
  · rw [added, one, Registry.names_add, List.map_singleton]

theorem evolves_perform (t : Terminal capacity limit H) (op : Operation H) :
    t.console.registry.Evolves next [] (t.perform op).state.console.registry := by
  rcases t.registry_perform op with ⟨same, -⟩ | ⟨name, handler, added, -⟩
  · rw [same]
    exact .refl _
  · rw [added]
    exact Registry.evolves_add _ name handler

theorem evolves_live (t : Terminal capacity limit H) (op : Operation H) :
    t.console.registry.Evolves next (t.live next op).events
      (t.live next op).state.console.registry :=
  (t.evolves_perform op).trans (Registry.evolves_afterEvents _ _)

theorem names_liveAll (t : Terminal capacity limit H) (ops : List (Operation H)) :
    (t.liveAll next ops).state.console.registry.names =
      t.console.registry.names ++ (Operation.registered ops).map (Text.clip · limit) := by
  induction ops generalizing t with
  | nil => simp [liveAll, Operation.registered]
  | cons op ops ih =>
    rw [liveAll, Outcome.state_andThen, ih, names_live, Operation.registered_cons op ops,
      List.map_append, List.append_assoc]

theorem evolves_liveAll (t : Terminal capacity limit H) (ops : List (Operation H)) :
    t.console.registry.Evolves next (t.liveAll next ops).events
      (t.liveAll next ops).state.console.registry := by
  induction ops generalizing t with
  | nil => exact .refl _
  | cons op ops ih => exact (t.evolves_live op).trans (ih _)

/-- With handlers that calls leave as they are it is the terminal. -/
theorem liveAll_const (t : Terminal capacity limit H) (ops : List (Operation H)) :
    t.liveAll (fun handler _ => handler) ops = t.performAll ops := by
  have one (t : Terminal capacity limit H) (op : Operation H) :
      t.live (fun handler _ => handler) op = t.perform op := by
    unfold live
    simp only [Registry.afterEvents_const]
  induction ops generalizing t with
  | nil => rfl
  | cons op ops ih =>
    rw [liveAll, one, performAll_cons]
    exact congrArg _ (funext ih)

/-- Commands can only be added. Whatever a terminal with handlers that calls change is used for, its
names are those under which commands were added, as far as names count, and a token selects the first
that is the same as far as names count, or nothing if none is, whichever way it is looked up. From then
on it selects the same command, whatever the terminal is used for next, and if it selected nothing it can
only select a command that was added later. Every command stays where it is under its name, and its
handler is what its own calls make of it; dispatching a token calls the command that it selects and
leaves the others alone. -/
theorem registry_append_only (next : H → Arguments → H) (settings : Settings) (style : BreakStyle)
    (ops more : List (Operation H)) :
    let now := ((fresh settings style : Terminal capacity limit H).liveAll next ops).state
    let later := now.liveAll next more
    let r := now.console.registry
    let r' := later.state.console.registry
    let added := Operation.registered ops
    (r.names = added.map (Text.clip · limit) ∧ r.size = added.length) ∧
    (∀ token,
      (∀ i, r.place? token = some i ↔ Registry.FirstNamed limit added token i) ∧
      (r.place? token = none ↔ ∀ name ∈ added, Text.clip name limit ≠ Text.clip token limit) ∧
      r.find? token = (r.index? token).map r.get) ∧
    (∀ token i, (r.place? token = some i → r'.place? token = some i) ∧
      (r.place? token = none → r'.place? token = some i → r.size ≤ i)) ∧
    r.Evolves next later.events r' ∧
    ∀ token arguments i,
      (r.afterEvents next (now.console.dispatch token arguments)).commands[i]? =
        r.commands[i]?.map fun c =>
          if r.place? token = some i then c.called next [arguments] else c := by
  intro now later r r' added
  have names : r.names = added.map (Text.clip · limit) :=
    (names_liveAll _ ops).trans (List.nil_append _)
  have evolves : r.Evolves next later.events r' := now.evolves_liveAll more
  have begins : r.names <+: r'.names := evolves.names_prefix
  refine ⟨⟨names, ?_⟩, fun token => ⟨fun i => ?_, ?_, r.find?_eq_map_get token⟩,
    fun token i => ⟨?_, ?_⟩, evolves, now.console.getElem?_afterEvents_dispatch⟩
  · rw [← Registry.length_names, names, List.length_map]
  · exact Registry.place?_eq_some_iff names
  · exact Registry.place?_eq_none_iff names
  · exact Registry.place?_of_prefix begins
  · exact Registry.size_le_of_place? begins

/-- Handlers that count their calls, the first of them called twice and the second, which the first hides,
never. -/
example :
    let t : Terminal 8 4 Nat := fresh {} .bytes
    let ops := [.register "help".toList 0, .register "helper".toList 0, .register "led".toList 0,
      .feed "help\nled on\nhelper\n".toUTF8.toList, .poll none]
    (t.liveAll (fun n _ => n + 1) ops).state.console.registry.commands.map (·.handler) = [2, 0, 1] := by
  decide +kernel

end Terminal

end SerialConsole
