/-
Which commands can be called at all. A stored name can come as a token exactly if it fits the line,
its characters are printable and neither the delimiter nor the newline, and it is not empty where
names count; and a command is called by its name only if no earlier one has it too (`Callable`). These are
the names of the tokens that can come (`Callable.exists_token`, `Callable.of_token`).
-/
import SerialConsole.Console.Basic
import SerialConsole.Proofs.Text.Ascii

namespace SerialConsole

/-- The command at the place, under names as they are stored, can be called. -/
structure Callable (newline delimiter : UInt8) (capacity limit : Nat) (stored : List Text)
    (i : Nat) : Prop where
  room : 1 ≤ capacity
  registered : i < stored.length
  first : ∀ j (hj : j < i), stored[j] ≠ stored[i]
  fits : Text.size stored[i] ≤ capacity
  plain : ∀ c ∈ stored[i], 0x20 ≤ c.toNat ∧ c.toNat ≤ 0x7E ∧
    c ≠ Char.ofUInt8 delimiter ∧ c ≠ Char.ofUInt8 newline
  named : stored[i] = [] → limit = 0

/-- Commands that are added later change nothing. -/
theorem Callable.append {newline delimiter : UInt8} {capacity limit : Nat} {stored : List Text}
    {i : Nat} (h : Callable newline delimiter capacity limit stored i) (more : List Text) :
    Callable newline delimiter capacity limit (stored ++ more) i := by
  obtain ⟨room, registered, first, fits, plain, named⟩ := h
  have after : i < (stored ++ more).length := by
    rw [List.length_append]
    omega
  have here : (stored ++ more)[i] = stored[i] := List.getElem_append_left registered
  refine ⟨room, after, fun j hj => ?_, here ▸ fits, here ▸ plain, here ▸ named⟩
  rw [here, List.getElem_append_left (Nat.lt_trans hj registered)]
  exact first j hj

/-! ## Tokens -/

theorem Console.isPrintable_iff {b : UInt8} :
    isPrintable b = true ↔ 0x20 ≤ b.toNat ∧ b.toNat ≤ 0x7E := by
  simp [isPrintable, UInt8.le_iff_toNat_le]

/-- A byte that can stand in a token. -/
structure TokenByte (newline delimiter b : UInt8) : Prop where
  printable : Console.isPrintable b = true
  other : b ≠ newline
  free : b ≠ delimiter

variable {newline delimiter : UInt8}

theorem TokenByte.lt {b : UInt8} (h : TokenByte newline delimiter b) : b < 0x80 :=
  Console.lt_of_isPrintable h.printable

/-- The same of the character. -/
theorem tokenByte_iff {b : UInt8} :
    TokenByte newline delimiter b ↔
      0x20 ≤ (Char.ofUInt8 b).toNat ∧ (Char.ofUInt8 b).toNat ≤ 0x7E ∧
        Char.ofUInt8 b ≠ Char.ofUInt8 delimiter ∧ Char.ofUInt8 b ≠ Char.ofUInt8 newline := by
  rw [ne_eq, ne_eq, Text.ofUInt8_injective.eq_iff, Text.ofUInt8_injective.eq_iff, Text.toNat_ofUInt8]
  constructor
  · rintro ⟨shown, other, free⟩
    obtain ⟨low, high⟩ := Console.isPrintable_iff.1 shown
    exact ⟨low, high, free, other⟩
  · rintro ⟨low, high, free, other⟩
    exact ⟨Console.isPrintable_iff.2 ⟨low, high⟩, other, free⟩

theorem exists_tokenByte (newline delimiter : UInt8) : ∃ b, TokenByte newline delimiter b := by
  by_contra none
  have taken (b : UInt8) (printable : Console.isPrintable b = true) : b = newline ∨ b = delimiter := by
    by_contra h
    rw [not_or] at h
    exact none ⟨b, printable, h.1, h.2⟩
  -- three printable bytes are not two
  have a := taken 97 rfl
  have b := taken 98 rfl
  have c := taken 99 rfl
  grind

/-- The text can be sent as a token: there is something to it, and its characters are printable and
neither the delimiter nor the newline. -/
structure Settings.IsToken (s : Settings) (t : Text) : Prop where
  nonempty : t ≠ []
  plain : ∀ c ∈ t, 0x20 ≤ c.toNat ∧ c.toNat ≤ 0x7E ∧ c ≠ s.delimiterChar ∧ c ≠ Char.ofUInt8 s.newline

namespace Settings.IsToken

variable {s : Settings} {t : Text}

theorem ascii (h : s.IsToken t) : ∀ c ∈ t, c.toNat < 0x80 := by
  intro c hc
  have := (h.plain c hc).2.1
  omega

theorem free (h : s.IsToken t) : s.delimiterChar ∉ t :=
  fun hd => (h.plain _ hd).2.2.1 rfl

theorem tokenByte (h : s.IsToken t) {b : UInt8} (hb : b ∈ Text.encode t) :
    TokenByte s.newline s.delimiter b :=
  tokenByte_iff.2 (h.plain _ (Text.exists_of_mem_encode h.ascii hb))

theorem filter_encode (h : s.IsToken t) :
    (Text.encode t).filter Console.isPrintable = Text.encode t :=
  List.filter_eq_self.2 fun _ hb => (h.tokenByte hb).printable

/-- Echo has nothing to do with it. -/
theorem congr {s' : Settings} (h : s.IsToken t) (newline : s'.newline = s.newline)
    (delimiter : s'.delimiter = s.delimiter) : s'.IsToken t := by
  refine ⟨h.nonempty, ?_⟩
  unfold delimiterChar
  rw [newline, delimiter]
  exact h.plain

instance (s : Settings) (t : Text) : Decidable (s.IsToken t) :=
  decidable_of_iff
    (t ≠ [] ∧ t.all fun c => decide (0x20 ≤ c.toNat ∧ c.toNat ≤ 0x7E ∧ c ≠ s.delimiterChar ∧
      c ≠ Char.ofUInt8 s.newline))
    ⟨fun h => ⟨h.1, fun c hc => of_decide_eq_true (List.all_eq_true.1 h.2 c hc)⟩,
      fun h => ⟨h.nonempty, List.all_eq_true.2 fun c hc => decide_eq_true (h.plain c hc)⟩⟩

end Settings.IsToken

section Call

variable {capacity limit : Nat} {stored : List Text} {i : Nat}

/-- A name that can be called can be sent. -/
theorem Callable.exists_token (h : Callable newline delimiter capacity limit stored i)
    (registered : i < stored.length) (stores : Text.size stored[i] ≤ limit) :
    ∃ token, token ≠ [] ∧ token.length ≤ capacity ∧ (∀ b ∈ token, TokenByte newline delimiter b) ∧
      stored[i] = Text.clip (Text.ofBytes token) limit := by
  by_cases empty : stored[i] = []
  · -- every token has the name
    obtain ⟨b, hb⟩ := exists_tokenByte newline delimiter
    refine ⟨[b], List.cons_ne_nil _ _, h.room, by simpa using hb, ?_⟩
    rw [empty, h.named empty, Text.clip_zero]
  · have ascii : ∀ c ∈ stored[i], c.toNat < 0x80 := by
      intro c hc
      have := (h.plain c hc).2.1
      omega
    refine ⟨Text.encode stored[i], ?_, ?_, ?_, ?_⟩
    · intro nothing
      rw [← Text.ofBytes_encode ascii, nothing] at empty
      exact empty rfl
    · rw [Text.length_encode]
      exact h.fits
    · intro b hb
      exact tokenByte_iff.2 (h.plain _ (Text.exists_of_mem_encode ascii hb))
    · rw [Text.ofBytes_encode ascii, Text.clip_eq_self stores]

/-- A name that is sent and that no earlier command has can be called. -/
theorem Callable.of_token {token : List UInt8} (nonempty : token ≠ []) (short : token.length ≤ capacity)
    (bytes : ∀ b ∈ token, TokenByte newline delimiter b) (registered : i < stored.length)
    (name : stored[i] = Text.clip (Text.ofBytes token) limit)
    (first : ∀ j (hj : j < i), stored[j] ≠ stored[i]) :
    Callable newline delimiter capacity limit stored i := by
  have begins : stored[i] <+: Text.ofBytes token := name ▸ Text.clip_isPrefix ..
  refine ⟨?_, registered, first, ?_, fun c hc => ?_, fun empty => ?_⟩
  · exact Nat.le_trans (List.length_pos_iff.2 nonempty) short
  · calc Text.size stored[i] ≤ Text.size (Text.ofBytes token) := Text.size_le_of_isPrefix begins
      _ = token.length := Text.size_ofBytes fun b hb => (bytes b hb).lt
      _ ≤ capacity := short
  · obtain ⟨b, hb, rfl⟩ := List.mem_map.1 (begins.mem hc)
    exact tokenByte_iff.1 (bytes b hb)
  · -- a name takes in a character of one byte as soon as a byte counts
    obtain ⟨b, more, rfl⟩ := List.exists_cons_of_ne_nil nonempty
    rw [name, Text.ofBytes_cons, Text.clip_cons,
      Text.utf8Size_ofUInt8 (bytes b (List.mem_cons_self ..)).lt] at empty
    by_contra counts
    rw [if_pos (by omega)] at empty
    exact List.cons_ne_nil _ _ empty

end Call

end SerialConsole
