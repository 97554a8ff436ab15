/-
Tokens as slices between byte offsets. A token goes up to the offset of the next delimiter, and what is
left starts behind that delimiter, which may be a character of any width. Both offsets are boundaries of
the text (`Text.splitAt?_append`), so that slicing never fails and gives what reading character by
character gives (`Cursor.slice?_eq_next`). What is left is always an end of the line, and each token takes
at least two characters, a delimiter with it, unless the line ends there (`Cursor.length_drain`).
-/
import SerialConsole.Proofs.Line.Draining
import SerialConsole.Proofs.Text.Clipping

namespace SerialConsole

namespace Text

/-! ## Offsets in bytes -/

/-- The byte offset of the first cut. -/
def offset? (cuts : Char → Bool) : Text → Option Nat
  | [] => none
  | c :: t => if cuts c then some 0 else (offset? cuts t).map (c.utf8Size + ·)

/-- The text in two at a byte offset; it cannot be cut off a boundary. -/
def splitAt? (t : Text) (offset : Nat) : Option (Text × Text) :=
  if isBoundary t offset then some (clip t offset, t.drop (clip t offset).length) else none

variable {cuts : Char → Bool} {t : Text} {stop : Nat}

theorem offset?_eq_none (h : offset? cuts t = none) : ∀ c ∈ t, cuts c = false := by
  induction t with
  | nil => exact List.forall_mem_nil _
  | cons c t ih =>
    unfold offset? at h
    split at h
    · cases h
    · next free =>
      exact List.forall_mem_cons.2 ⟨eq_false_of_ne_true free, ih (Option.map_eq_none_iff.1 h)⟩

/-- The offset found is the size of what is in front of the first cut. -/
theorem offset?_eq_some (h : offset? cuts t = some stop) :
    ∃ front d behind, t = front ++ d :: behind ∧ (∀ c ∈ front, cuts c = false) ∧ cuts d = true ∧
      stop = size front := by
  induction t generalizing stop with
  | nil => cases h
  | cons c t ih =>
    unfold offset? at h
    split at h
    · next here =>
      cases h
      exact ⟨[], c, t, rfl, List.forall_mem_nil _, here, rfl⟩
    · next free =>
      obtain ⟨stop, later, rfl⟩ := Option.map_eq_some_iff.1 h
      obtain ⟨front, d, behind, rfl, before, here, rfl⟩ := ih later
      exact ⟨c :: front, d, behind, rfl,
        List.forall_mem_cons.2 ⟨eq_false_of_ne_true free, before⟩, here, rfl⟩

theorem splitAt?_append (s t : Text) : splitAt? (s ++ t) (size s) = some (s, t) := by
  have whole : s <+: s ++ t := List.prefix_append s t
  rw [splitAt?, if_pos (isBoundary_of_isPrefix whole), clip_size whole, List.drop_left]

/-- A character in a text starts at a boundary and ends at one, and its end is not past the text's. -/
theorem isBoundary_around (front behind : Text) (d : Char) :
    isBoundary (front ++ d :: behind) (size front) = true ∧
      isBoundary (front ++ d :: behind) (size front + d.utf8Size) = true ∧
      size front + d.utf8Size ≤ size (front ++ d :: behind) := by
  have upTo : front ++ [d] <+: front ++ d :: behind := ⟨behind, by simp⟩
  have width : size (front ++ [d]) = size front + d.utf8Size := by simp
  refine ⟨isBoundary_of_isPrefix (List.prefix_append front _), ?_, ?_⟩
  · rw [← width]
    exact isBoundary_of_isPrefix upTo
  · rw [← width]
    exact size_le_of_isPrefix upTo

end Text

namespace Cursor

/-! ## Slices -/

/-- The next token as a slice of the text without the delimiters in front, up to the offset of the
next delimiter. The cursor after it is the slice that starts behind that delimiter, as many bytes on as
the character takes. -/
def slice? (c : Cursor) (delimiters : List Char) : Option (Option Text × Cursor) :=
  let start := c.rest.dropWhile (· ∈ delimiters)
  if start = [] then
    some (none, ⟨start⟩)
  else
    match Text.offset? (· ∈ delimiters) start with
    | none => some (some start, ⟨[]⟩)
    | some stop => do
      let (token, behind) ← Text.splitAt? start stop
      let width := behind.head?.elim 0 Char.utf8Size
      let (_, rest) ← Text.splitAt? start (stop + width)
      some (some token, ⟨rest⟩)

variable {c after : Cursor} {delimiters : List Char} {token behind : Text} {d : Char}

/-- A token ends at the first delimiter behind the skipped ones. -/
theorem next_of_delimiter (start : c.rest.dropWhile (· ∈ delimiters) = token ++ d :: behind)
    (free : ∀ x ∈ token, x ∉ delimiters) (ends : d ∈ delimiters) :
    c.next delimiters = (some token, ⟨behind⟩) := by
  have free' : ∀ x ∈ token, (!decide (x ∈ delimiters)) = true := by simpa using free
  have nonempty : c.rest.dropWhile (· ∈ delimiters) ≠ [] := by simp [start]
  rw [next_of_dropWhile_ne_nil nonempty, start, List.takeWhile_append_of_pos free',
    List.dropWhile_append_of_pos free']
  simp [ends]

/-- Without a delimiter behind it, the token is all the rest. -/
theorem next_of_no_delimiter (nonempty : c.rest.dropWhile (· ∈ delimiters) ≠ [])
    (free : ∀ x ∈ c.rest.dropWhile (· ∈ delimiters), x ∉ delimiters) :
    c.next delimiters = (some (c.rest.dropWhile (· ∈ delimiters)), ⟨[]⟩) := by
  have free' : ∀ x ∈ c.rest.dropWhile (· ∈ delimiters), (!decide (x ∈ delimiters)) = true := by
    simpa using free
  rw [next_of_dropWhile_ne_nil nonempty, List.takeWhile_eq_self_iff.2 free',
    List.dropWhile_eq_nil_iff.2 free']
  rfl

/-- Slicing is always possible, and gives the next token. -/
theorem slice?_eq_next (c : Cursor) (delimiters : List Char) :
    c.slice? delimiters = some (c.next delimiters) := by
  simp only [slice?]
  split
  · next nothing => rw [next_of_dropWhile_eq_nil nothing, nothing]
  · next nonempty =>
    split
    · next undelimited =>
      have free : ∀ x ∈ c.rest.dropWhile (· ∈ delimiters), x ∉ delimiters := by
        simpa using Text.offset?_eq_none undelimited
      rw [next_of_no_delimiter nonempty free]
    · next stop found =>
      obtain ⟨token, d, behind, start, free, ends, rfl⟩ := Text.offset?_eq_some found
      have upTo : token ++ d :: behind = (token ++ [d]) ++ behind := by simp
      have width : Text.size token + d.utf8Size = Text.size (token ++ [d]) := by simp
      rw [next_of_delimiter start (by simpa using free) (by simpa using ends), start]
      simp only [Text.splitAt?_append, Option.bind_eq_bind, Option.bind_some, List.head?_cons,
        Option.elim_some]
      rw [upTo, width, Text.splitAt?_append, Option.bind_some]

/-- The arrow takes three bytes, and the text in front of it five. -/
example : slice? (ofText "één→b".toList) ['→'] = some (some "één".toList, ofText "b".toList) := rfl

/-! ## Progress -/

theorem next_suffix (c : Cursor) (delimiters : List Char) :
    (c.next delimiters).2.rest <:+ c.rest := by
  rcases given : c.next delimiters with ⟨_ | token, after⟩
  · rw [eq_of_next_eq_none given]
    exact List.nil_suffix
  · obtain ⟨-, -, skipped, ending, parts, -, -⟩ := parts_of_next_eq_some given
    exact ⟨skipped ++ token ++ ending, parts.symm⟩

/-- What is left after calls in a row is an end of what there was. -/
theorem after_suffix (c : Cursor) (calls : List Call) : (c.after calls).rest <:+ c.rest := by
  induction calls generalizing c with
  | nil => exact List.suffix_refl _
  | cons call calls ih =>
    refine (ih (call.apply c).2).trans ?_
    rw [Call.apply_eq]
    exact next_suffix c call.delimiters

/-- There is a delimiter between any two tokens. -/
theorem length_drain (c : Cursor) (delimiters : List Char) :
    2 * (c.drain delimiters).length ≤ c.rest.length + 1 := by
  fun_induction drain c delimiters with
  | case1 c after spent => exact Nat.zero_le _
  | case2 c token after given ih =>
    obtain ⟨nonempty, -, skipped, ending, parts, -, ends⟩ := parts_of_next_eq_some given
    have := List.length_pos_iff.2 nonempty
    have taken := congrArg List.length parts
    simp only [List.length_append] at taken
    rw [List.length_cons]
    rcases ends with ⟨d, -, rfl⟩ | ⟨rfl, nothing⟩
    · rw [List.length_singleton] at taken
      omega
    · -- the line ends with this token, so there is no other
      obtain rfl : after = ⟨[]⟩ := congrArg Cursor.mk nothing
      rw [drain_of_next_eq_none (next_nil delimiters)] at ih ⊢
      simp only [List.length_nil] at *
      omega

/-- What is left of a line gives no more tokens than the line has room for. -/
theorem length_drain_after (line : Text) (calls : List Call) (delimiters : List Char) :
    (((ofText line).after calls).drain delimiters).length ≤ (line.length + 1) / 2 := by
  have bound := length_drain ((ofText line).after calls) delimiters
  have within : ((ofText line).after calls).rest.length ≤ line.length :=
    (after_suffix (ofText line) calls).length_le
  omega

end Cursor

end SerialConsole
