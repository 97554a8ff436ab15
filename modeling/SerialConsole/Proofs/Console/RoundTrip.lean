/-
Sending a command line and receiving it are inverse. A command and its arguments are written with
runs of the delimiter in front of them, between them and behind them (`lineOf`). A terminal with
room for the line reads back the text that was sent (`textOf_encode`); its first token is the
command, and behind the one delimiter after it the handler finds the arguments
(`Arguments.holds_spaced`).
-/
import SerialConsole.Proofs.Command.Callable
import SerialConsole.Proofs.Console.Lines
import SerialConsole.Proofs.Line.Draining
import SerialConsole.Proofs.Line.Spaced

namespace SerialConsole

/-- What a handler is given holds the arguments: read together they come in order and nothing is
left, read one by one they come in order and then nothing does, and the rest of the line taken at
once is the text that was written. -/
structure Arguments.Holds (given : Arguments) (arguments : List Text) (written : Text) : Prop where
  together : given.collect.1 = arguments
  nothingLeft : ∀ n, given.collect.2.results n = List.replicate n none
  oneByOne : ∀ n, given.results (arguments.length + n) = arguments.map some ++ List.replicate n none
  unsplit : given.remainder.1 = if written = [] then none else some written

theorem Arguments.holds_spaced {d : Char} {trailing : Nat} {tokens : List (Nat × Text)}
    (apart : ∀ x ∈ tokens, 0 < x.1) (plain : ∀ x ∈ tokens, x.2 ≠ [] ∧ d ∉ x.2) :
    (⟨.ofText (Text.spaced d trailing tokens).tail, d⟩ : Arguments).Holds (tokens.map (·.2))
      (Text.spaced d trailing tokens).tail := by
  have all : (⟨.ofText (Text.spaced d trailing tokens).tail, d⟩ : Arguments).toList =
      tokens.map (·.2) := toList_spaced apart plain
  refine ⟨?_, fun n => ?_, fun n => ?_, ?_⟩
  · rw [collect_eq]
    exact all
  · rw [collect_eq]
    exact results_exhausted d n
  · have one := results_eq ⟨.ofText (Text.spaced d trailing tokens).tail, d⟩ n
    rw [all] at one
    exact one
  · exact congrArg Prod.fst (Cursor.remainder_eq _)

namespace Settings

/-- A command and its arguments, each argument behind so many delimiters. -/
def lineOf (s : Settings) (lead trailing : Nat) (command : Text) (arguments : List (Nat × Text)) :
    Text :=
  Text.spaced s.delimiterChar trailing ((lead, command) :: arguments)

/-- What is written behind the command and one delimiter. -/
def behindCommand (s : Settings) (trailing : Nat) (arguments : List (Nat × Text)) : Text :=
  (Text.spaced s.delimiterChar trailing arguments).tail

variable {s : Settings} {command : Text} {arguments : List (Nat × Text)}

/-! ## The text of the line -/

/-- In a line there are only printable characters, none of them the newline. -/
theorem plain_lineOf (lead trailing : Nat) (delimiter : Console.isPrintable s.delimiter = true)
    (other : s.delimiter ≠ s.newline) (token : s.IsToken command)
    (tokens : ∀ x ∈ arguments, s.IsToken x.2) :
    ∀ c ∈ s.lineOf lead trailing command arguments,
      (0x20 ≤ c.toNat ∧ c.toNat ≤ 0x7E) ∧ c ≠ Char.ofUInt8 s.newline := by
  intro c hc
  have all : ∀ x ∈ (lead, command) :: arguments, s.IsToken x.2 :=
    List.forall_mem_cons.2 ⟨token, tokens⟩
  rcases Text.mem_spaced hc with rfl | ⟨x, hx, hc⟩
  · exact ⟨Console.isPrintable_iff.1 delimiter, fun same => other (Text.ofUInt8_injective same)⟩
  · obtain ⟨low, high, -, another⟩ := (all x hx).plain c hc
    exact ⟨⟨low, high⟩, another⟩

end Settings

/-- A printable text that there is room for is read as it was sent. -/
theorem Console.textOf_encode {capacity : Nat} {line : Text}
    (plain : ∀ c ∈ line, 0x20 ≤ c.toNat ∧ c.toNat ≤ 0x7E) (fits : line.length ≤ capacity) :
    textOf capacity (Text.encode line) = line := by
  have ascii : ∀ c ∈ line, c.toNat < 0x80 := by
    intro c hc
    have := (plain c hc).2
    omega
  have shown : (Text.encode line).filter isPrintable = Text.encode line := by
    refine List.filter_eq_self.2 fun b hb => isPrintable_iff.2 ?_
    exact plain _ (Text.exists_of_mem_encode ascii hb)
  rw [textOf, shown, Text.ofBytes_take, Text.ofBytes_encode ascii, List.take_of_length_le fits]

/-! ## The round trip -/

namespace Terminal

variable {capacity limit : Nat} {H : Type}

/-- A command with its arguments is sent in a line that there is room for. The first command of that
name gets exactly the arguments; where no command has the name, the fallback gets exactly the
name. -/
theorem dispatched_lineOf (t : Terminal capacity limit H) (schedule : List Traffic)
    (lead trailing : Nat) (command : Text) (arguments : List (Nat × Text))
    (delimiter : Console.isPrintable t.console.settings.delimiter = true)
    (other : t.console.settings.delimiter ≠ t.console.settings.newline)
    (token : t.console.settings.IsToken command)
    (apart : ∀ x ∈ arguments, 0 < x.1)
    (tokens : ∀ x ∈ arguments, t.console.settings.IsToken x.2)
    (fits : (t.console.settings.lineOf lead trailing command arguments).length ≤ capacity)
    (blank : t.console.line.bytes = [])
    (sent : t.taken schedule =
      Text.encode (t.console.settings.lineOf lead trailing command arguments) ++
        [t.console.settings.newline]) :
    (∀ i, t.console.registry.Selects command i →
      ∃ given : Arguments,
        t.dispatched schedule = [.command i (t.console.registry.get i).handler given] ∧
        given.Holds (arguments.map (·.2)) (t.console.settings.behindCommand trailing arguments)) ∧
    ((∀ i, (t.console.registry.get i).name ≠ Text.clip command limit) →
      t.dispatched schedule = (t.console.fallback.map (Event.unmatched · command)).toList) := by
  have plain := Settings.plain_lineOf lead trailing delimiter other token tokens
  have unbroken : t.console.settings.newline ∉
      Text.encode (t.console.settings.lineOf lead trailing command arguments) := by
    intro hb
    have ascii : ∀ c ∈ t.console.settings.lineOf lead trailing command arguments, c.toNat < 0x80 := by
      intro c hc
      have := (plain c hc).1.2
      omega
    exact (plain _ (Text.exists_of_mem_encode ascii hb)).2 rfl
  have ends : ∀ c ∈ (Text.spaced t.console.settings.delimiterChar trailing arguments).head?,
      c = t.console.settings.delimiterChar := Text.head?_spaced apart
  have next := Cursor.next_append lead token.nonempty token.free ends
  have handed := dispatched_line blank unbroken sent
  rw [Console.textOf_encode (fun c hc => (plain c hc).1) fits] at handed
  unfold Settings.lineOf Text.spaced at handed
  rw [next] at handed
  constructor
  · intro i selects
    refine ⟨_, handed.trans (t.console.dispatch_of_selects selects _), ?_⟩
    exact Arguments.holds_spaced apart fun x hx => ⟨(tokens x hx).nonempty, (tokens x hx).free⟩
  · intro unnamed
    exact handed.trans (t.console.dispatch_of_unnamed unnamed _)

/-- Commas separate, a name goes by its first three characters, and the line fills the room; it comes
in two pieces behind an earlier one. -/
theorem dispatched_lineOf_commas :
    let settings : Settings := { delimiter := 44, echo := true }
    let ops : List (Operation Nat) := [.register "adopt".toList 7, .register "address".toList 8,
      .setFallback 9, .feed [104, 105, 10], .poll none]
    let t := ((fresh settings .bytes : Terminal 19 3 Nat).performAll ops).state
    let schedule := [Traffic.feed ",addi".toUTF8.toList, .poll none,
      .feed "ng,,1 2,,,-3,,\n".toUTF8.toList, .poll (some 99)]
    ∃ given, t.dispatched schedule = [.command 1 8 given] ∧
      given.Holds ["1 2".toList, "-3".toList] ",1 2,,,-3,,".toList := by
  intro settings ops t schedule
  have sends := dispatched_lineOf t schedule 1 2 "adding".toList
    [(2, "1 2".toList), (3, "-3".toList)] (by decide) (by decide) (by decide +kernel) (by decide)
    (by decide +kernel) (by decide +kernel) (by decide +kernel) (by decide +kernel)
  exact sends.1 ⟨1, by decide +kernel⟩ ⟨by decide +kernel, by decide +kernel⟩

end Terminal

end SerialConsole
