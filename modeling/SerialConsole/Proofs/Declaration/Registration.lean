/-
From the tokens of a module to the handler that a line runs. An accepted module has the declarations
that are written in its table, and no others can be read there (`CommandModule.written_of_ofTokens`).
Its commands go behind those that a terminal has (`performAll_register`). So a name of the module that
is sent as a line runs an older command if one has the name, as far as names count, and else the
first of the table that has it (`runs_of_selects`).
-/
import SerialConsole.Declaration.Header
import SerialConsole.Proofs.Command.Places
import SerialConsole.Proofs.Console.Called
import SerialConsole.Proofs.Declaration.Grammar
import SerialConsole.Proofs.Declaration.Path

namespace SerialConsole

/-! ## Commands behind others -/

namespace Registry

variable {limit : Nat} {H : Type}

/-- The place and the handler of the command that a name runs where commands were added to others:
an older one that has the name, and else the first of those that were added and have it. -/
inductive Runs (r : Registry limit H) (added : List (Text × H)) (name : Text) : Nat → H → Prop
  | older {i : Fin r.size} (selects : r.Selects name i) : Runs r added name i (r.get i).handler
  | added {k : Nat} (here : k < added.length)
    (unnamed : ∀ i, (r.get i).name ≠ Text.clip name limit)
    (named : Text.clip added[k].1 limit = Text.clip name limit)
    (first : ∀ j (hj : j < k), Text.clip added[j].1 limit ≠ Text.clip name limit) :
    Runs r added name (r.size + k) added[k].2

variable {r : Registry limit H} {added : List (Text × H)} {name : Text}

theorem get_addAll_older {j : Fin (r.addAll added).size} (older : j < r.size) :
    (r.addAll added).get j = r.get ⟨j, older⟩ :=
  List.getElem_append_left older

theorem get_addAll_added {k : Nat} (here : k < added.length)
    (bound : r.size + k < (r.addAll added).size) :
    (r.addAll added).get ⟨r.size + k, bound⟩ = .ofName added[k].1 added[k].2 := by
  simp [get, addAll, size]

theorem runs_of_selects {j : Fin (r.addAll added).size} (h : (r.addAll added).Selects name j) :
    r.Runs added name j ((r.addAll added).get j).handler := by
  rcases Nat.lt_or_ge j r.size with older | later
  · have same := get_addAll_older older
    rw [same]
    refine .older ⟨same ▸ h.named, fun i hi => ?_⟩
    have bound : i < (r.addAll added).size := Nat.lt_trans hi j.2
    have := h.first ⟨i, bound⟩ hi
    rwa [get_addAll_older i.2] at this
  · obtain ⟨k, place⟩ := Nat.exists_eq_add_of_le later
    obtain ⟨j, bound⟩ := j
    subst place
    have here : k < added.length := by
      have := size_addAll r added
      omega
    have named := h.named
    rw [get_addAll_added here bound] at named ⊢
    refine .added here (fun i => ?_) named fun i hi => ?_
    · have before : (⟨i, by omega⟩ : Fin (r.addAll added).size) < ⟨r.size + k, bound⟩ := by
        show (i : Nat) < r.size + k
        omega
      have := h.first _ before
      rwa [get_addAll_older i.2] at this
    · have before : (⟨r.size + i, by omega⟩ : Fin (r.addAll added).size) < ⟨r.size + k, bound⟩ := by
        show r.size + i < r.size + k
        omega
      have := h.first _ before
      rwa [get_addAll_added (Nat.lt_trans hi here)] at this

end Registry

theorem Terminal.performAll_register {capacity limit : Nat} {H : Type}
    (t : Terminal capacity limit H) (added : List (Text × H)) :
    t.performAll (added.map fun c => .register c.1 c.2) =
      { state := { t with console.registry := t.console.registry.addAll added } } := by
  induction added generalizing t with
  | nil => simp [Registry.addAll]
  | cons c added ih =>
    rw [List.map_cons, performAll_cons, perform, Outcome.andThen_of_nothing, ih]
    simp [Registry.addAll, Registry.add]

/-! ## Modules -/

variable {P : Type} {L : Language P}

/-- What a declaration adds to a terminal, given what the paths stand for. -/
def Declaration.command {H : Type} (resolve : P → H) (d : Declaration P) : Text × H :=
  (d.name, resolve d.handler)

/-- The module does what the declarations say, in their order. -/
structure CommandModule.Declares (m : CommandModule P) (declarations : List (Declaration P)) :
    Prop where
  names : m.names = declarations.map (·.name)
  size : m.size = declarations.length
  registrations : ∀ {H : Type} (resolve : P → H), m.registrations resolve =
    (declarations.map (·.command resolve)).map fun c => .register c.1 c.2

/-- What a terminal is after commands were added: it has them behind its own, and a line that is the
name of one of them runs the first of all commands that has the name. -/
structure Terminal.Gains {capacity limit : Nat} {H : Type} (t after : Terminal capacity limit H)
    (added : List (Text × H)) : Prop where
  size : after.console.registry.size = t.console.registry.size + added.length
  names : after.console.registry.names =
    t.console.registry.names ++ added.map fun c => Text.clip c.1 limit
  runs : ∀ c ∈ added, t.console.settings.delimiterChar ∉ c.1 →
    Char.ofUInt8 t.console.settings.newline ∉ c.1 → t.console.line.bytes = [] →
    max 1 (min c.1.length limit) ≤ capacity →
    ∀ schedule, after.taken schedule = Text.encode c.1 ++ [t.console.settings.newline] →
      ∃ j given, after.console.registry.Selects c.1 j ∧
        after.dispatched schedule = [.command j (after.console.registry.get j).handler given] ∧
        t.console.registry.Runs added c.1 j (after.console.registry.get j).handler

theorem Declaration.IsName.isToken {name : Text} (h : IsName name) {s : Settings}
    (delimiter : s.delimiterChar ∉ name) (newline : Char.ofUInt8 s.newline ∉ name) :
    s.IsToken name := by
  refine ⟨h.nonempty, fun c hc => ?_⟩
  have range := range_of_isGraphic (h.plain c hc).1
  refine ⟨by omega, range.2, ?_, ?_⟩
  · rintro rfl
    exact delimiter hc
  · rintro rfl
    exact newline hc

theorem Terminal.gains_performAll_register {capacity limit : Nat} {H : Type}
    (t : Terminal capacity limit H) {added : List (Text × H)}
    (named : ∀ c ∈ added, Declaration.IsName c.1) :
    t.Gains (t.performAll (added.map fun c => .register c.1 c.2)).state added := by
  rw [performAll_register]
  refine ⟨Registry.size_addAll _ _, Registry.names_addAll _ _, ?_⟩
  intro c hc delimiter newline blank room schedule sent
  have token : t.console.settings.IsToken c.1 := (named c hc).isToken delimiter newline
  have alone : t.console.settings.Surrounds 0 [] := ⟨.inl rfl, .inr ⟨rfl, rfl⟩⟩
  have there : Text.clip c.1 limit ∈ (t.console.registry.addAll added).names := by
    rw [Registry.names_addAll]
    exact List.mem_append_right _ (List.mem_map_of_mem hc)
  obtain ⟨j, given, selects, dispatched⟩ :=
    dispatched_name (t := { t with console.registry := t.console.registry.addAll added }) blank token
      alone (by omega) there (by simpa using sent)
  exact ⟨j, given, selects, dispatched, Registry.runs_of_selects selects⟩

namespace CommandModule

variable {tokens : List Token} {m : CommandModule P}

/-- Accepted tokens have the parts of a module, and their table has one reading, which is what the
module declares. -/
theorem written_of_ofTokens (accepted : ofTokens L tokens = .ok m) :
    ∃ header, Header.ofTokens L tokens = .ok header ∧
      ∀ declarations, Table.Written L header.body declarations ↔ declarations = m.declarations := by
  obtain ⟨header, declarations, parsed, read, rfl⟩ := ofTokens_eq_ok_iff.1 accepted
  refine ⟨header, parsed, fun others => ?_⟩
  rw [← Table.ofText_eq_ok_iff, read, Except.ok.injEq]
  exact eq_comm

/-- In any language: an accepted module has the names, the number and the commands that are written in
its table, in order, and nothing else can be read there. Added to a terminal its commands stand behind
the older ones, and a name of the module that is sent as a line runs the first command that has it. -/
theorem declared_commands_run (accepted : ofTokens L tokens = .ok m) :
    ∃ header declarations, Header.ofTokens L tokens = .ok header ∧
      (∀ others, Table.Written L header.body others ↔ others = declarations) ∧
      m.Declares declarations ∧ (∀ name ∈ m.names, ' ' ∉ name ∧ '\n' ∉ name) ∧
      ∀ {capacity limit : Nat} {H : Type} (resolve : P → H) (t : Terminal capacity limit H),
        t.Gains (t.performAll (m.registrations resolve)).state
          (declarations.map (·.command resolve)) := by
  obtain ⟨header, parsed, written⟩ := written_of_ofTokens accepted
  obtain ⟨items, -, reads, -⟩ := (written _).2 rfl
  have named := reads.isName
  have declares : m.Declares m.declarations :=
    ⟨rfl, rfl, fun resolve => by rw [List.map_map]; rfl⟩
  refine ⟨header, m.declarations, parsed, written, declares, ?_, ?_⟩
  · intro name h
    obtain ⟨d, hd, rfl⟩ := List.mem_map.1 h
    have plain {c : Char} (hc : c ∈ d.name) : 0x21 ≤ c.toNat ∧ c.toNat ≤ 0x7E :=
      Declaration.range_of_isGraphic ((named d hd).plain c hc).1
    exact ⟨fun h => absurd (plain h) (by decide), fun h => absurd (plain h) (by decide)⟩
  · intro capacity limit H resolve t
    rw [declares.registrations resolve]
    refine t.gains_performAll_register fun c hc => ?_
    obtain ⟨d, hd, rfl⟩ := List.mem_map.1 hc
    exact named d hd

/-- Three characters count and find room, so the second name of the table runs the first command of
the table, which stands behind an older command of another name. -/
theorem declared_commands_run_shadowed :
    let table := "led: h::led,\n ledger : h::ledger, ".toList
    let tokens := [.word Header.modKeyword, .word ⟨false, "table".toList⟩, .mark ';' false, .text table]
    let older : List (Operation Nat) := [.register "lever".toList 9, .feed [120, 10], .poll none]
    let t := ((Terminal.fresh {} .bytes : Terminal 3 3 Nat).performAll older).state
    let schedule := [Traffic.feed "ledger\n".toUTF8.toList, .poll none]
    ∃ m, ofTokens .words tokens = .ok m ∧
      let after := (t.performAll (m.registrations fun path => path.words.length)).state
      ∃ j given, after.console.registry.Selects "ledger".toList j ∧
        after.dispatched schedule = [.command j (after.console.registry.get j).handler given] := by
  intro table tokens older t schedule
  let h : Word := ⟨false, "h".toList⟩
  let m : CommandModule Path :=
    ⟨⟨false, "table".toList⟩, defaultTerminal,
      [⟨"led".toList, ⟨false, h, [⟨false, "led".toList⟩]⟩⟩,
        ⟨"ledger".toList, ⟨false, h, [⟨false, "ledger".toList⟩]⟩⟩]⟩
  have accepted : ofTokens .words tokens = .ok m := eq_ok_of_toOption (by decide +kernel)
  obtain ⟨-, declarations, -, -, declares, -, gains⟩ := declared_commands_run accepted
  have there : "ledger".toList ∈ declarations.map (·.name) := by
    rw [← declares.names]
    decide +kernel
  obtain ⟨⟨_, handler⟩, hd, rfl⟩ := List.mem_map.1 there
  have runs := (gains (fun path => path.words.length) t).runs _ (List.mem_map_of_mem hd)
  dsimp only [Declaration.command] at runs
  obtain ⟨j, given, selects, dispatched, -⟩ := runs (by decide +kernel) (by decide +kernel)
    (by decide +kernel) (by decide +kernel) schedule (by decide +kernel)
  exact ⟨m, accepted, j, given, selects, dispatched⟩

end CommandModule

end SerialConsole
