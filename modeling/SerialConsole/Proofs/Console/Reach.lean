/-
Which commands can run. Between newlines a listener hears no newline (`Keeps.heard`), so the first
piece of its line is a token and only a callable command is selected (`callable_of_select?`); this
holds through every operation, whatever bytes come (`callable_of_performAll`). And a callable
command is run by its name between two newlines (`exists_run`).
-/
import SerialConsole.Proofs.Command.Callable
import SerialConsole.Proofs.Console.Refinement

namespace SerialConsole

/-- The names under which the operations add commands, in order. -/
def Operation.registered {H : Type} : List (Operation H) → List Text
  | [] => []
  | .register name _ :: ops => name :: registered ops
  | _ :: ops => registered ops

theorem Operation.registered_cons {H : Type} (op : Operation H) (ops : List (Operation H)) :
    registered (op :: ops) = registered [op] ++ registered ops := by
  cases op <;> rfl

namespace Listener

variable {capacity limit : Nat} {H : Type}

/-- A listener as the settings have made it: echo may have changed, and no newline has been heard
since the last. -/
structure Keeps (settings : Settings) (l : Listener capacity limit H) : Prop where
  newline : l.settings.newline = settings.newline
  delimiter : l.settings.delimiter = settings.delimiter
  heard : settings.newline ∉ l.heard

theorem keeps_fresh (settings : Settings) (style : BreakStyle) :
    Keeps settings (fresh settings style : Listener capacity limit H) :=
  ⟨rfl, rfl, List.not_mem_nil⟩

/-! ## What can be selected -/

/-- The first piece of a line is made of bytes that can stand in a token. -/
theorem exists_token_of_piece {settings : Settings} {l : Listener capacity limit H}
    (keeps : Keeps settings l) {piece : Text}
    (h : (Text.pieces (· = l.settings.delimiterChar) (Text.ofBytes l.kept)).head? = some piece) :
    ∃ token, piece = Text.ofBytes token ∧ token ≠ [] ∧ token.length ≤ capacity ∧
      ∀ b ∈ token, TokenByte settings.newline settings.delimiter b := by
  obtain ⟨nonempty, piece_eq⟩ := Text.of_head?_pieces h
  rw [Text.ofBytes, List.dropWhile_map, List.takeWhile_map] at piece_eq
  refine ⟨_, piece_eq, ?_, ?_, fun b hb => ?_⟩
  · intro nothing
    rw [nothing] at piece_eq
    exact nonempty piece_eq
  · calc _ ≤ (l.kept.dropWhile _).length := (List.takeWhile_prefix _).length_le
      _ ≤ l.kept.length := (List.dropWhile_suffix _).length_le
      _ ≤ capacity := List.length_take_le ..
  · have uncut := List.mem_takeWhile_imp hb
    have kept : b ∈ l.kept := (List.dropWhile_suffix _).mem ((List.takeWhile_prefix _).mem hb)
    refine ⟨isPrintable_of_mem_kept kept, ?_, ?_⟩
    · rintro rfl
      exact keeps.heard (List.mem_filter.1 (List.mem_of_mem_take kept)).1
    · rintro rfl
      simp [Settings.delimiterChar, keeps.delimiter] at uncut

theorem callable_of_select? {settings : Settings} {l : Listener capacity limit H}
    (keeps : Keeps settings l) {piece : Text} {c : Text × H} {i : Nat}
    (h : (Text.pieces (· = l.settings.delimiterChar) (Text.ofBytes l.kept)).head? = some piece)
    (selects : l.select? piece = some (c, i)) :
    Callable settings.newline settings.delimiter capacity limit l.names i := by
  obtain ⟨token, rfl, nonempty, short, bytes⟩ := exists_token_of_piece keeps h
  obtain ⟨hi, rfl, named, first⟩ := select?_eq_some_iff.1 selects
  have registered : i < l.names.length := by rwa [length_names]
  have name : l.names[i] = Text.clip (Text.ofBytes token) limit := by
    rw [l.getElem_names hi, named]
  refine .of_token nonempty short bytes registered name fun j hj => ?_
  rw [l.getElem_names (Nat.lt_trans hj hi), name]
  exact first j hj

/-! ## What runs -/

theorem any_dispatch {l : Listener capacity limit H} {i : Nat} :
    l.dispatch.any (Event.isCallOf i) = true ↔
      ∃ piece, (Text.pieces (· = l.settings.delimiterChar) (Text.ofBytes l.kept)).head? = some piece ∧
        ∃ c, l.select? piece = some (c, i) := by
  unfold dispatch
  rcases hp : Text.pieces (· = l.settings.delimiterChar) (Text.ofBytes l.kept) with _ | ⟨piece, more⟩
  · simp [hp]
  · simp only [hp, List.head?_cons, Option.some.injEq, exists_eq_left']
    rcases l.select? piece with _ | ⟨⟨name, handler⟩, j⟩
    · cases l.fallback <;> simp [Event.isCallOf]
    · simp [Event.isCallOf]

/-- Only a newline runs commands. -/
theorem any_hear (l : Listener capacity limit H) (b : UInt8) (i : Nat) :
    (l.hear b).events.any (Event.isCallOf i) =
      (decide (b = l.settings.newline) && l.dispatch.any (Event.isCallOf i)) := by
  by_cases newline : b = l.settings.newline
  · subst newline
    rw [hear_newline]
    cases l.settings.echo <;> cases l.afterLine <;> simp [Event.isCallOf]
  · rw [hear_of_ne newline]
    cases l.settings.echo <;> cases Console.isPrintable b <;> simp [newline, Event.isCallOf]

theorem hear_keeps {settings : Settings} {l : Listener capacity limit H} (h : Keeps settings l)
    (b : UInt8) : Keeps settings (l.hear b).state ∧ (l.hear b).state.names = l.names := by
  by_cases newline : b = l.settings.newline
  · subst newline
    rw [hear_newline]
    exact ⟨⟨h.newline, h.delimiter, List.not_mem_nil⟩, rfl⟩
  · rw [hear_of_ne newline]
    refine ⟨⟨h.newline, h.delimiter, ?_⟩, rfl⟩
    intro hb
    rcases List.mem_append.1 hb with before | now
    · exact h.heard before
    · exact newline (by rw [h.newline, List.mem_singleton.1 now])

theorem hearAll_keeps {settings : Settings} {l : Listener capacity limit H} (h : Keeps settings l)
    (bytes : List UInt8) :
    Keeps settings (l.hearAll bytes).state ∧ (l.hearAll bytes).state.names = l.names := by
  induction bytes generalizing l with
  | nil => exact ⟨h, rfl⟩
  | cons b bytes ih =>
    obtain ⟨keeps, names⟩ := hear_keeps h b
    exact ⟨(ih keeps).1, (ih keeps).2.trans names⟩

theorem callable_of_hearAll {settings : Settings} {l : Listener capacity limit H}
    (h : Keeps settings l) {bytes : List UInt8} {i : Nat}
    (runs : (l.hearAll bytes).events.any (Event.isCallOf i) = true) :
    Callable settings.newline settings.delimiter capacity limit l.names i := by
  induction bytes generalizing l with
  | nil => simp [hearAll] at runs
  | cons b bytes ih =>
    obtain ⟨keeps, names⟩ := hear_keeps h b
    rw [hearAll, Outcome.events_andThen, List.any_append, Bool.or_eq_true] at runs
    -- either the first byte completes a line, or those after it run the command
    rcases runs with now | later
    · rw [any_hear, Bool.and_eq_true] at now
      obtain ⟨piece, first, c, selects⟩ := any_dispatch.1 now.2
      exact callable_of_select? h first selects
    · exact names ▸ ih keeps later

/-! ## Operations -/

theorem listen_keeps {settings : Settings} {l : Listener capacity limit H} (h : Keeps settings l)
    (count : Nat) :
    Keeps settings (l.listen count).state ∧ (l.listen count).state.names = l.names := by
  obtain ⟨⟨newline, delimiter, heard⟩, names⟩ := hearAll_keeps h (l.link.unread.take count)
  exact ⟨⟨newline, delimiter, heard⟩, names⟩

theorem perform_keeps {settings : Settings} {l : Listener capacity limit H} (h : Keeps settings l)
    (op : Operation H) :
    Keeps settings (l.perform op).state ∧ (l.perform op).state.names =
      l.names ++ (Operation.registered [op]).map (Text.clip · limit) := by
  cases op with
  | register name handler =>
    refine ⟨⟨h.newline, h.delimiter, h.heard⟩, ?_⟩
    simp [perform, names, Operation.registered]
  | poll count =>
    show _ ∧ _ = l.names ++ []
    rw [List.append_nil]
    cases count with
    | none => exact listen_keeps h _
    | some count => exact listen_keeps h count
  | clear => exact ⟨⟨h.newline, h.delimiter, List.not_mem_nil⟩, (List.append_nil _).symm⟩
  | setFallback | setAfterLine | setEcho | feed =>
    exact ⟨⟨h.newline, h.delimiter, h.heard⟩, (List.append_nil _).symm⟩

theorem callable_of_perform {settings : Settings} {l : Listener capacity limit H}
    (h : Keeps settings l) {op : Operation H} {i : Nat}
    (runs : (l.perform op).events.any (Event.isCallOf i) = true) :
    Callable settings.newline settings.delimiter capacity limit l.names i := by
  have reads (count : Nat) (runs : (l.listen count).events.any (Event.isCallOf i) = true) :
      Callable settings.newline settings.delimiter capacity limit l.names i := by
    rw [listen, BreakStyle.any_write _ _ (fun _ => rfl) rfl] at runs
    exact callable_of_hearAll h runs
  -- whatever is no poll does nothing that can be seen
  cases op with
  | poll count =>
    cases count with
    | none => exact reads _ runs
    | some count => exact reads count runs
  | register | setFallback | setAfterLine | setEcho | feed | clear => simp [perform] at runs

/-- However long it is used, a listener stays as the settings have made it. -/
theorem performAll_keeps {settings : Settings} {l : Listener capacity limit H}
    (h : Keeps settings l) (ops : List (Operation H)) :
    Keeps settings (l.performAll ops).state ∧ (l.performAll ops).state.names =
      l.names ++ (Operation.registered ops).map (Text.clip · limit) := by
  induction ops generalizing l with
  | nil => exact ⟨h, (List.append_nil _).symm⟩
  | cons op ops ih =>
    obtain ⟨keeps, names⟩ := perform_keeps h op
    refine ⟨(ih keeps).1, (ih keeps).2.trans ?_⟩
    rw [names, Operation.registered_cons op ops, List.map_append, List.append_assoc]

theorem callable_of_performAll {settings : Settings} {l : Listener capacity limit H}
    (h : Keeps settings l) {ops : List (Operation H)} {i : Nat}
    (runs : (l.performAll ops).events.any (Event.isCallOf i) = true) :
    Callable settings.newline settings.delimiter capacity limit
      (l.names ++ (Operation.registered ops).map (Text.clip · limit)) i := by
  induction ops generalizing l with
  | nil => simp [performAll] at runs
  | cons op ops ih =>
    obtain ⟨keeps, names⟩ := perform_keeps h op
    rw [performAll, Outcome.events_andThen, List.any_append, Bool.or_eq_true] at runs
    rcases runs with now | later
    · exact (callable_of_perform h now).append _
    · have := ih keeps later
      rwa [names, List.append_assoc, ← List.map_append, ← Operation.registered_cons] at this

/-! ## Sending a name -/

/-- A line that is one token and the name of a command, as far as names count, runs the first
command of that name. -/
theorem any_dispatch_token {settings : Settings} {l : Listener capacity limit H}
    (keeps : Keeps settings l) (nonempty : l.heard ≠ []) (short : l.heard.length ≤ capacity)
    (bytes : ∀ b ∈ l.heard, TokenByte settings.newline settings.delimiter b) {i : Nat}
    (hi : i < l.names.length) (named : l.names[i] = Text.clip (Text.ofBytes l.heard) limit)
    (first : ∀ j (hj : j < i), l.names[j] ≠ l.names[i]) :
    l.dispatch.any (Event.isCallOf i) = true := by
  have all : l.kept = l.heard := by
    rw [kept, List.filter_eq_self.2 fun b hb => (bytes b hb).printable, List.take_of_length_le short]
  have one : Text.pieces (· = l.settings.delimiterChar) (Text.ofBytes l.heard) =
      [Text.ofBytes l.heard] := by
    apply Text.pieces_of_forall
    · simpa [Text.ofBytes] using nonempty
    · intro c hc
      obtain ⟨b, hb, rfl⟩ := List.mem_map.1 hc
      have := (tokenByte_iff.1 (bytes b hb)).2.2.1
      simpa [Settings.delimiterChar, keeps.delimiter] using this
  have hi' : i < l.commands.length := by rwa [length_names] at hi
  refine any_dispatch.2 ⟨Text.ofBytes l.heard, by rw [all, one]; rfl, l.commands[i], ?_⟩
  refine select?_eq_some_iff.2 ⟨hi', rfl, ?_, fun j hj => ?_⟩
  · rw [← named, l.getElem_names hi']
  · rw [← named, ← l.getElem_names (Nat.lt_trans hj hi') (Nat.lt_trans hj hi)]
    exact first j hj

/-- There is a line that runs the command whenever it comes right after a newline. -/
theorem exists_line {settings : Settings} {stored : List Text} {i : Nat}
    (h : Callable settings.newline settings.delimiter capacity limit stored i)
    (registered : i < stored.length) (stores : Text.size stored[i] ≤ limit) :
    ∃ line, ∀ l : Listener capacity limit H, Keeps settings l → l.heard = [] → l.names = stored →
      (l.hearAll line).events.any (Event.isCallOf i) = true := by
  obtain ⟨token, nonempty, short, bytes, named⟩ := h.exists_token registered stores
  refine ⟨token ++ [settings.newline], ?_⟩
  rintro l keeps fresh rfl
  have others : ∀ b ∈ token, b ≠ l.settings.newline := fun b hb => keeps.newline ▸ (bytes b hb).other
  have heard : Keeps settings ({ l with heard := token } : Listener capacity limit H) :=
    ⟨keeps.newline, keeps.delimiter, fun hb => others _ hb keeps.newline.symm⟩
  have dispatched := any_dispatch_token heard nonempty short bytes registered named h.first
  rw [hearAll_append, Outcome.events_andThen, List.any_append, hearAll_others others, fresh,
    List.nil_append, hearAll, Outcome.events_andThen, List.any_append, any_hear, dispatched]
  simp [keeps.newline]

theorem heard_hearAll_newline {settings : Settings} {l : Listener capacity limit H}
    (keeps : Keeps settings l) (bytes : List UInt8) :
    (l.hearAll (bytes ++ [settings.newline])).state.heard = [] := by
  have after := (hearAll_keeps keeps bytes).1
  rw [hearAll_append, Outcome.state_andThen]
  show ((l.hearAll bytes).state.hear settings.newline).state.heard = []
  rw [← after.newline, hear_newline]

theorem any_feed_poll (l : Listener capacity limit H) (bytes : List UInt8) (i : Nat) :
    (l.performAll [.feed bytes, .poll none]).events.any (Event.isCallOf i) =
      ((l.perform (.feed bytes)).state.hearAll (l.link.unread ++ bytes)).events.any
        (Event.isCallOf i) := by
  let fed := (l.perform (.feed bytes)).state
  have read : (fed.listen fed.link.unread.length).events.any (Event.isCallOf i) =
      (fed.hearAll fed.link.unread).events.any (Event.isCallOf i) := by
    rw [listen, BreakStyle.any_write _ _ (fun _ => rfl) rfl, List.take_length]
  simpa [performAll, perform, fed] using read

/-- A newline ends whatever has been heard; then the name comes as a line of its own. -/
theorem exists_run {settings : Settings} {l : Listener capacity limit H} (keeps : Keeps settings l)
    {i : Nat} (h : Callable settings.newline settings.delimiter capacity limit l.names i) :
    ∃ bytes, (l.performAll [.feed bytes, .poll none]).events.any (Event.isCallOf i) = true := by
  have registered := h.registered
  have stores : Text.size l.names[i] ≤ limit := by
    rw [l.getElem_names (by rwa [length_names] at registered)]
    exact Text.size_clip_le ..
  obtain ⟨line, runs⟩ := exists_line (H := H) h registered stores
  refine ⟨[settings.newline] ++ line, ?_⟩
  obtain ⟨fed, names⟩ := perform_keeps keeps (.feed ([settings.newline] ++ line))
  obtain ⟨ended, same⟩ := hearAll_keeps fed (l.link.unread ++ [settings.newline])
  rw [any_feed_poll, ← List.append_assoc, hearAll_append, Outcome.events_andThen, List.any_append,
    runs _ ended (heard_hearAll_newline fed _), Bool.or_true]
  exact same.trans (names.trans (List.append_nil _))

end Listener

/-- A command, at any place and under any name, can be run by bytes that come next if and only if
it is callable, and no bytes or operations whatever have run one that is not. -/
theorem Terminal.runs_iff_callable {capacity limit : Nat} {H : Type} (settings : Settings)
    (style : BreakStyle) (ops : List (Operation H)) (i : Nat) :
    let o := (fresh settings style : Terminal capacity limit H).performAll ops
    let stored := (Operation.registered ops).map (Text.clip · limit)
    ((∃ bytes, (o.state.performAll [.feed bytes, .poll none]).events.any (Event.isCallOf i) = true) ↔
      Callable settings.newline settings.delimiter capacity limit stored i) ∧
    (o.events.any (Event.isCallOf i) = true →
      Callable settings.newline settings.delimiter capacity limit stored i) := by
  intro o stored
  have keeps : Listener.Keeps settings (Listener.fresh settings style : Listener capacity limit H) :=
    ⟨rfl, rfl, List.not_mem_nil⟩
  let p : Outcome (Listener capacity limit H) H := (Listener.fresh settings style).performAll ops
  have outcome : o = p.map Listener.terminal := by
    rw [← Listener.performAll_terminal, Listener.terminal_fresh]
  obtain ⟨after, names⟩ := Listener.performAll_keeps keeps ops
  have names : p.state.names = stored := names.trans (List.nil_append _)
  have next (bytes : List UInt8) : (o.state.performAll [.feed bytes, .poll none]).events =
      (p.state.performAll [.feed bytes, .poll none]).events := by
    rw [outcome, Outcome.state_map, Listener.performAll_terminal, Outcome.events_map]
  refine ⟨⟨?_, fun h => ?_⟩, fun runs => ?_⟩
  · rintro ⟨bytes, runs⟩
    rw [next] at runs
    have := Listener.callable_of_performAll after runs
    rw [← names]
    simpa [Operation.registered] using this
  · rw [← names] at h
    obtain ⟨bytes, runs⟩ := Listener.exists_run after h
    exact ⟨bytes, by rwa [next]⟩
  · rw [outcome, Outcome.events_map] at runs
    exact Listener.callable_of_performAll keeps runs

end SerialConsole
