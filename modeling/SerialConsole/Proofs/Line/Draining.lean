/-
Reading to the end gives the pieces of a line. Calls of `next` until there is no token give the pieces
of the line cut at every delimiter, empty ones left out, and leave nothing (`Cursor.yields_iff`). The
same holds of the arguments of a command, whether they are collected, counted, or read through for the
last of them (`Text.pieces_read`).
-/
import SerialConsole.Proofs.Line.Conservation
import SerialConsole.Proofs.Line.Pieces

namespace SerialConsole

/-! ## Readers -/

/-- Calls of `next` from `s` on until one gives nothing: what they give, and where they end. -/
inductive Yields {σ : Type} (next : σ → Option Text × σ) : σ → List Text → σ → Prop
  | nothing {s after : σ} : next s = (none, after) → Yields next s [] after
  | token {s between after : σ} {token : Text} {tokens : List Text} :
    next s = (some token, between) → Yields next between tokens after →
      Yields next s (token :: tokens) after

namespace Yields

variable {σ : Type} {next : σ → Option Text × σ} {s after after' : σ} {tokens tokens' : List Text}

theorem unique (h : Yields next s tokens after) (h' : Yields next s tokens' after') :
    tokens = tokens' ∧ after = after' := by
  induction h generalizing tokens' with
  | nothing spent =>
    cases h' with
    | nothing spent' =>
      rw [spent] at spent'
      exact ⟨rfl, congrArg Prod.snd spent'⟩
    | token given' =>
      rw [spent] at given'
      cases given'
  | token given _ ih =>
    cases h' with
    | nothing spent' =>
      rw [given] at spent'
      cases spent'
    | token given' later' =>
      rw [given] at given'
      cases given'
      obtain ⟨rfl, same⟩ := ih later'
      exact ⟨rfl, same⟩

end Yields

/-! ## Pieces of a text -/

namespace Text

variable {cuts : Char → Bool} {c : Char}

/-- At a cut the pieces fall apart. -/
theorem pieces_append_cut (h : cuts c = true) (s t : Text) :
    pieces cuts (s ++ c :: t) = pieces cuts s ++ pieces cuts t := by
  unfold pieces
  rw [split_eq_splitOnP, split_eq_splitOnP, split_eq_splitOnP, List.splitOnP_append_cons s t h,
    List.filter_append]

/-- Cuts in front are in no piece. -/
theorem pieces_cuts_append {s : Text} (h : ∀ c ∈ s, cuts c = true) (t : Text) :
    pieces cuts (s ++ t) = pieces cuts t := by
  induction s with
  | nil => rfl
  | cons c s ih =>
    rw [List.forall_mem_cons] at h
    exact (pieces_append_cut h.1 [] (s ++ t)).trans (ih h.2)

/-- A piece ends at the next cut; what is behind has pieces of its own. -/
theorem pieces_append_token {skipped token : Text} (skips : ∀ c ∈ skipped, cuts c = true)
    (nonempty : token ≠ []) (free : ∀ c ∈ token, cuts c = false) (ends : cuts c = true) (t : Text) :
    pieces cuts (skipped ++ token ++ c :: t) = token :: pieces cuts t := by
  rw [List.append_assoc, pieces_cuts_append skips, pieces_append_cut ends,
    pieces_of_forall nonempty free]
  rfl

end Text

/-! ## Reading a line to its end -/

namespace Cursor

theorem yields_drain (c : Cursor) (delimiters : List Char) :
    Yields (·.next delimiters) c (c.drain delimiters) (ofText []) := by
  fun_induction drain c delimiters with
  | case1 c after spent =>
    obtain rfl := eq_of_next_eq_none spent
    exact .nothing spent
  | case2 c token after given ih => exact .token given ih

theorem collect_eq (c : Cursor) (delimiters : List Char) :
    c.collect delimiters = (c.drain delimiters, ofText []) := by
  fun_induction collect c delimiters with
  | case1 c after spent => rw [drain_of_next_eq_none spent, eq_of_next_eq_none spent, ofText]
  | case2 c token after given tokens last collected ih =>
    rw [collected, Prod.mk.injEq] at ih
    rw [drain_of_next_eq_some given, ih.1, ih.2]

theorem drain_eq_pieces (c : Cursor) (delimiters : List Char) :
    c.drain delimiters = Text.pieces (· ∈ delimiters) c.rest := by
  fun_induction drain c delimiters with
  | case1 c after spent =>
    have only : ∀ x ∈ c.rest, decide (x ∈ delimiters) = true := by
      simpa using mem_of_next_eq_none spent
    rw [← List.append_nil c.rest, Text.pieces_cuts_append only]
    rfl
  | case2 c token after given ih =>
    obtain ⟨nonempty, free, skipped, ending, parts, skips, ends⟩ := parts_of_next_eq_some given
    have skips' : ∀ x ∈ skipped, decide (x ∈ delimiters) = true := by simpa using skips
    have free' : ∀ x ∈ token, decide (x ∈ delimiters) = false := by simpa using free
    rw [parts, List.append_assoc, ih]
    -- The delimiter behind the token ends its piece; without one the text ends there.
    rcases ends with ⟨d, delimits, rfl⟩ | ⟨rfl, nothing⟩
    · exact (Text.pieces_append_token skips' nonempty free' (decide_eq_true delimits) _).symm
    · rw [nothing, List.append_nil, List.append_nil, Text.pieces_cuts_append skips',
        Text.pieces_of_forall nonempty free']
      rfl

theorem yields_iff {c after : Cursor} {delimiters : List Char} {tokens : List Text} :
    Yields (·.next delimiters) c tokens after ↔
      tokens = Text.pieces (· ∈ delimiters) c.rest ∧ after = ofText [] := by
  rw [← drain_eq_pieces]
  constructor
  · intro h
    exact h.unique (yields_drain c delimiters)
  · rintro ⟨rfl, rfl⟩
    exact yields_drain c delimiters

end Cursor

/-! ## Reading the arguments to their end -/

namespace Arguments

variable {c after : Cursor} {d : Char} {a : Arguments} {arguments : List Text}

theorem yields_of_cursor (h : Yields (·.next [d]) c arguments after) :
    Yields next ⟨c, d⟩ arguments ⟨after, d⟩ := by
  induction h with
  | @nothing c after spent =>
    have spent' : next ⟨c, d⟩ = (none, ⟨after, d⟩) := by rw [next, spent]
    exact .nothing spent'
  | @token c between after token tokens given _ ih =>
    have given' : next ⟨c, d⟩ = (some token, ⟨between, d⟩) := by rw [next, given]
    exact .token given' ih

theorem toList_eq_pieces (a : Arguments) :
    a.toList = Text.pieces (· = a.delimiter) a.cursor.rest := by
  rw [toList, Cursor.drain_eq_pieces]
  congr 1
  funext x
  simp

theorem yields_iff {after : Arguments} :
    Yields next a arguments after ↔
      arguments = a.toList ∧ after = ⟨.ofText [], a.delimiter⟩ := by
  have drained : Yields next a a.toList ⟨.ofText [], a.delimiter⟩ :=
    yields_of_cursor (Cursor.yields_drain a.cursor [a.delimiter])
  constructor
  · intro h
    exact h.unique drained
  · rintro ⟨rfl, rfl⟩
    exact drained

theorem collect_eq (a : Arguments) : a.collect = (a.toList, ⟨.ofText [], a.delimiter⟩) := by
  rw [collect, Cursor.collect_eq]
  rfl

theorem count_eq_length (a : Arguments) : a.count = a.toList.length := by
  have counted (l : List Text) (n : Nat) : l.foldl (fun n _ => n + 1) n = n + l.length := by
    induction l generalizing n with
    | nil => rfl
    | cons x l ih =>
      rw [List.foldl_cons, ih, List.length_cons]
      omega
  rw [count, fold_eq_foldl, counted, Nat.zero_add]

theorem last?_eq_getLast? (a : Arguments) : a.last? = a.toList.getLast? := by
  rw [last?, fold_eq_foldl]
  rcases List.eq_nil_or_concat a.toList with nothing | ⟨l, x, concat⟩
  · rw [nothing]
    rfl
  · rw [concat, List.concat_eq_append, List.foldl_append, List.getLast?_concat]
    rfl

end Arguments

/-- A line is read to its end piece by piece, whatever the delimiters; and so are the arguments of a
command, by calls until there is none, all at once, counted, and for the last of them. -/
theorem Text.pieces_read :
    (∀ (line : Text) (delimiters : List Char),
      let expected := pieces (· ∈ delimiters) line
      (∀ tokens after, Yields (·.next delimiters) (Cursor.ofText line) tokens after ↔
        tokens = expected ∧ after = .ofText []) ∧
      (Cursor.ofText line).collect delimiters = (expected, .ofText [])) ∧
    ∀ a : Arguments,
      let expected := pieces (· = a.delimiter) a.cursor.rest
      (∀ arguments after, Yields Arguments.next a arguments after ↔
        arguments = expected ∧ after = ⟨.ofText [], a.delimiter⟩) ∧
      a.collect = (expected, ⟨.ofText [], a.delimiter⟩) ∧
      a.count = expected.length ∧ a.last? = expected.getLast? := by
  constructor
  · intro line delimiters
    refine ⟨fun _ _ => Cursor.yields_iff, ?_⟩
    rw [Cursor.collect_eq, Cursor.drain_eq_pieces]
    rfl
  · intro a
    rw [← a.toList_eq_pieces]
    exact ⟨fun _ _ => Arguments.yields_iff, a.collect_eq, a.count_eq_length, a.last?_eq_getLast?⟩

end SerialConsole
