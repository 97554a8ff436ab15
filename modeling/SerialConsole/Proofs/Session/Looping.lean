/-
Loops over the arguments of a command. A round takes the next argument and either goes on with another
state or leaves the loop with a result; where there is no argument the loop is done. Any such loop ends,
always with the same result, and takes no more arguments than there are (`Loop.runs_iff`). The routines
that add arguments up and number them are such loops, so what a line has room for bounds their rounds
(`Loop.reading_ends`).
-/
import SerialConsole.Proofs.Line.Slicing
import SerialConsole.Proofs.Session.Summing

namespace SerialConsole

/-! ## Loops -/

/-- What a round comes to. -/
inductive Round (σ ρ : Type)
  | again (s : σ)
  | leave (result : ρ)

/-- A loop over arguments: its rounds, and the result where the arguments run out. -/
structure Loop (σ ρ : Type) where
  round : σ → Text → Round σ ρ
  finish : σ → ρ

namespace Loop

variable {σ ρ : Type} {l : Loop σ ρ} {s : σ} {a after : Arguments} {n n' : Nat} {result result' : ρ}

/-- The loop ends with the result, having taken so many arguments. -/
inductive Runs (l : Loop σ ρ) : σ → Arguments → Nat → ρ → Prop
  | done {s : σ} {a after : Arguments} : a.next = (none, after) → Runs l s a 0 (l.finish s)
  | leave {s : σ} {a after : Arguments} {argument : Text} {result : ρ} :
    a.next = (some argument, after) → l.round s argument = .leave result → Runs l s a 1 result
  | again {s s' : σ} {a after : Arguments} {argument : Text} {n : Nat} {result : ρ} :
    a.next = (some argument, after) → l.round s argument = .again s' → Runs l s' after n result →
      Runs l s a (n + 1) result

/-- The result of the loop over a list of arguments. -/
def resultOn (l : Loop σ ρ) (s : σ) : List Text → ρ
  | [] => l.finish s
  | argument :: arguments =>
    match l.round s argument with
    | .again s => l.resultOn s arguments
    | .leave result => result

theorem Runs.unique (h : l.Runs s a n result) (h' : l.Runs s a n' result') :
    n = n' ∧ result = result' := by
  induction h generalizing n' with
  | done spent =>
    cases h' with
    | done _ => exact ⟨rfl, rfl⟩
    | leave given _ | again given _ _ => cases spent.symm.trans given
  | leave given left =>
    cases h' with
    | done spent => cases spent.symm.trans given
    | leave given' left' =>
      cases given.symm.trans given'
      cases left.symm.trans left'
      exact ⟨rfl, rfl⟩
    | again given' goes' _ =>
      cases given.symm.trans given'
      cases left.symm.trans goes'
  | again given goes _ ih =>
    cases h' with
    | done spent => cases spent.symm.trans given
    | leave given' left' =>
      cases given.symm.trans given'
      cases goes.symm.trans left'
    | again given' goes' later' =>
      cases given.symm.trans given'
      cases goes.symm.trans goes'
      obtain ⟨rfl, same⟩ := ih later'
      exact ⟨rfl, same⟩

theorem exists_runs {arguments : List Text} (yields : Yields Arguments.next a arguments after) (s : σ) :
    ∃ n ≤ arguments.length, l.Runs s a n (l.resultOn s arguments) := by
  induction yields generalizing s with
  | nothing spent => exact ⟨0, Nat.le_refl 0, .done spent⟩
  | @token a between after argument arguments given _ ih =>
    rw [resultOn]
    cases round : l.round s argument with
    | leave result => exact ⟨1, Nat.succ_le_succ (Nat.zero_le _), .leave given round⟩
    | again s' =>
      obtain ⟨n, few, later⟩ := ih s'
      exact ⟨n + 1, Nat.succ_le_succ few, .again given round later⟩

/-- A loop ends in one way only, after no more rounds than there are arguments. -/
theorem runs_iff (l : Loop σ ρ) (s : σ) (a : Arguments) :
    ∃ n ≤ a.toList.length, ∀ n' result, l.Runs s a n' result ↔ n' = n ∧ result = l.resultOn s a.toList := by
  have yields : Yields Arguments.next a a.toList ⟨.ofText [], a.delimiter⟩ :=
    Arguments.yields_iff.2 ⟨rfl, rfl⟩
  obtain ⟨n, few, runs⟩ := exists_runs (l := l) yields s
  refine ⟨n, few, fun n' result => ⟨fun h => h.unique runs, ?_⟩⟩
  rintro ⟨rfl, rfl⟩
  exact runs

/-! ## The loops of the routines -/

/-- Adding up leaves at the first argument that is no numeral. -/
def adding : Loop Int Text where
  round total argument :=
    match Numeral.read? argument with
    | some v => .again (Numeral.saturatingAdd total v)
    | none => .leave (Reply.misfit argument)
  finish total := Reply.line (Numeral.write total)

/-- Numbering counts the arguments and prints each. -/
def numbering : Loop (Nat × Text) Text where
  round := fun (i, printed) argument =>
    .again (i + 1, printed ++ Reply.line ("arg".toList ++ Nat.toDigits 10 i ++ ": ".toList ++ argument))
  finish := fun (_, printed) => printed

theorem adding_resultOn (total : Int) (arguments : List Text) :
    adding.resultOn total arguments = Reply.sum total arguments := by
  induction arguments generalizing total with
  | nil => rfl
  | cons argument arguments ih =>
    cases read : Numeral.read? argument with
    | none => simp only [resultOn, adding, Reply.sum, read, Reply.misfit]
    | some v =>
      have goes : adding.round total argument = .again (Numeral.saturatingAdd total v) := by
        simp only [adding, read]
      rw [resultOn, goes, Reply.sum, read]
      exact ih (Numeral.saturatingAdd total v)

theorem numbering_resultOn (i : Nat) (printed : Text) (arguments : List Text) :
    numbering.resultOn (i, printed) arguments =
      printed ++ (arguments.zipIdx i).flatMap fun (argument, i) =>
        Reply.line ("arg".toList ++ Nat.toDigits 10 i ++ ": ".toList ++ argument) := by
  induction arguments generalizing i printed with
  | nil => exact (List.append_nil printed).symm
  | cons argument arguments ih =>
    rw [List.zipIdx_cons, List.flatMap_cons, ← List.append_assoc]
    exact ih (i + 1) _

/-- Reading a line goes on and comes to an end, wherever calls in a row have led. What is left is an end
of the line. The next delimiter lies between two boundaries of the text without the delimiters in front,
so the slices are there, and they are the token and what is left. A token leaves less than there was,
and until there is none there are at most half as many as the line has characters, rounded up. So many
rounds are enough for adding the arguments up, and for numbering them. -/
theorem reading_ends (line : Text) (calls : List Cursor.Call) :
    let c := (Cursor.ofText line).after calls
    let most := (line.length + 1) / 2
    c.rest <:+ line ∧
    (∀ delimiters : List Char,
      let start := c.rest.dropWhile (· ∈ delimiters)
      (∀ stop, Text.offset? (· ∈ delimiters) start = some stop →
        ∃ token d behind, start = token ++ d :: behind ∧ d ∈ delimiters ∧ stop = Text.size token ∧
          Text.isBoundary start stop = true ∧ Text.isBoundary start (stop + d.utf8Size) = true ∧
          stop + d.utf8Size ≤ Text.size start) ∧
      c.slice? delimiters = some (c.next delimiters) ∧
      (∀ token after, c.next delimiters = (some token, after) → after.rest.length < c.rest.length) ∧
      ∃ tokens, Yields (·.next delimiters) c tokens (.ofText []) ∧ tokens.length ≤ most) ∧
    ∀ d : Char,
      let a : Arguments := ⟨c, d⟩
      (∃ n ≤ most, ∀ n' result, adding.Runs 0 a n' result ↔ n' = n ∧ result = Reply.add a) ∧
      ∃ n ≤ most, ∀ n' result, numbering.Runs (0, []) a n' result ↔ n' = n ∧ result = Reply.args a := by
  intro c most
  refine ⟨Cursor.after_suffix (.ofText line) calls, fun delimiters => ⟨fun stop found => ?_,
    c.slice?_eq_next delimiters, fun _ _ => Cursor.length_next_lt,
    c.drain delimiters, c.yields_drain delimiters, Cursor.length_drain_after line calls delimiters⟩,
    fun d => ?_⟩
  · obtain ⟨token, x, behind, start, -, ends, rfl⟩ := Text.offset?_eq_some found
    refine ⟨token, x, behind, start, by simpa using ends, rfl, ?_⟩
    rw [start]
    exact Text.isBoundary_around token behind x
  · intro a
    have room : a.toList.length ≤ most := Cursor.length_drain_after line calls [d]
    constructor
    · obtain ⟨n, few, runs⟩ := runs_iff adding 0 a
      rw [adding_resultOn] at runs
      exact ⟨n, few.trans room, runs⟩
    · obtain ⟨n, few, runs⟩ := runs_iff numbering (0, []) a
      rw [numbering_resultOn, List.nil_append] at runs
      exact ⟨n, few.trans room, runs⟩

/-- Three characters have room for two arguments, but adding is left at the first. -/
example : adding.Runs 0 ⟨.ofText "x y".toList, ' '⟩ 1 "add: 'x' is not a number\n".toList :=
  .leave rfl rfl

end Loop

end SerialConsole
