/-
Well-formed bytes. A character takes one to four bytes, and the ranges of the bytes leave out what
could be written shorter, the surrogates and what is past the last character. Bytes made of such forms
are exactly those that a text is written with (`wellFormed_iff`), and reading them gives the longest
beginning that is so made, wherever the bytes go wrong or break off (`longestWellFormed_decode`).
-/
import SerialConsole.Text.Utf8

namespace SerialConsole.Text

/-! ## Forms of characters -/

/-- The byte goes on with a character. -/
structure Continues (b : UInt8) : Prop where
  low : 0x80 ≤ b.toNat
  high : b.toNat ≤ 0xBF

/-- The bytes are the form of one character. -/
inductive Form : List UInt8 → Prop
  | one {a : UInt8} : a.toNat ≤ 0x7F → Form [a]
  /-- From C2 on; what C0 and C1 would start takes one byte. -/
  | two {a b : UInt8} : 0xC2 ≤ a.toNat → a.toNat ≤ 0xDF → Continues b → Form [a, b]
  /-- What E0 starts does not fit two bytes, and what ED starts comes before the surrogates. -/
  | three {a b c : UInt8} : 0xE0 ≤ a.toNat → a.toNat ≤ 0xEF → Continues b → Continues c →
      (a.toNat = 0xE0 → 0xA0 ≤ b.toNat) → (a.toNat = 0xED → b.toNat ≤ 0x9F) → Form [a, b, c]
  /-- What F0 starts does not fit three bytes, and F4 starts the last characters there are. -/
  | four {a b c d : UInt8} : 0xF0 ≤ a.toNat → a.toNat ≤ 0xF4 → Continues b → Continues c →
      Continues d → (a.toNat = 0xF0 → 0x90 ≤ b.toNat) → (a.toNat = 0xF4 → b.toNat ≤ 0x8F) →
      Form [a, b, c, d]

theorem form_utf8EncodeChar (c : Char) : Form (String.utf8EncodeChar c) := by
  have valid := c.valid
  unfold UInt32.isValidChar Nat.isValidChar at valid
  unfold String.utf8EncodeChar
  generalize c.val.toNat = v at valid
  have cont (n : Nat) : Continues (UInt8.ofNat (n % 64 + 128)) := by
    constructor <;> rw [UInt8.toNat_ofNat'] <;> omega
  dsimp only
  split
  · refine .one ?_
    rw [UInt8.toNat_ofNat']
    omega
  split
  · refine .two ?_ ?_ (cont v) <;> rw [UInt8.toNat_ofNat'] <;> omega
  split
  · refine .three ?_ ?_ (cont (v / 64)) (cont v) ?_ ?_ <;> simp only [UInt8.toNat_ofNat'] <;> omega
  · refine .four ?_ ?_ (cont (v / 4096)) (cont (v / 64)) (cont v) ?_ ?_ <;>
      simp only [UInt8.toNat_ofNat'] <;> omega

theorem exists_char {n : Nat} (h : n.isValidChar) : ∃ c : Char, c.val.toNat = n :=
  ⟨Char.ofNatAux n h, rfl⟩

/-- Put together from its bytes, the number of a form is that of a character. -/
theorem Form.exists_char {bytes : List UInt8} (h : Form bytes) :
    ∃ c : Char, bytes = String.utf8EncodeChar c := by
  unfold String.utf8EncodeChar
  cases h with
  | @one a low =>
    obtain ⟨x, hx⟩ := Text.exists_char (n := a.toNat) (.inl (by omega))
    refine ⟨x, ?_⟩
    rw [hx, if_pos low, UInt8.ofNat_toNat]
  | @two a b low high hb =>
    obtain ⟨hb, hb'⟩ := hb
    obtain ⟨x, hx⟩ := Text.exists_char (n := (a.toNat - 0xC0) * 64 + (b.toNat - 0x80))
      (.inl (by omega))
    refine ⟨x, ?_⟩
    rw [hx, if_neg (by omega), if_pos (by omega)]
    simp only [List.cons.injEq, ← UInt8.toNat_inj, UInt8.toNat_ofNat', and_true]
    omega
  | @three a b c low high hb hc least greatest =>
    obtain ⟨hb, hb'⟩ := hb
    obtain ⟨hc, hc'⟩ := hc
    have valid : ((a.toNat - 0xE0) * 4096 + (b.toNat - 0x80) * 64 + (c.toNat - 0x80)).isValidChar := by
      unfold Nat.isValidChar
      omega
    obtain ⟨x, hx⟩ := Text.exists_char valid
    refine ⟨x, ?_⟩
    rw [hx, if_neg (by omega), if_neg (by omega), if_pos (by omega)]
    simp only [List.cons.injEq, ← UInt8.toNat_inj, UInt8.toNat_ofNat', and_true]
    omega
  | @four a b c d low high hb hc hd least greatest =>
    obtain ⟨hb, hb'⟩ := hb
    obtain ⟨hc, hc'⟩ := hc
    obtain ⟨hd, hd'⟩ := hd
    have valid : ((a.toNat - 0xF0) * 262144 + (b.toNat - 0x80) * 4096 + (c.toNat - 0x80) * 64 +
        (d.toNat - 0x80)).isValidChar := by
      unfold Nat.isValidChar
      omega
    obtain ⟨x, hx⟩ := Text.exists_char valid
    refine ⟨x, ?_⟩
    rw [hx, if_neg (by omega), if_neg (by omega), if_neg (by omega)]
    simp only [List.cons.injEq, ← UInt8.toNat_inj, UInt8.toNat_ofNat', and_true]
    omega

theorem form_iff {bytes : List UInt8} : Form bytes ↔ ∃ c : Char, bytes = String.utf8EncodeChar c := by
  constructor
  · exact Form.exists_char
  · rintro ⟨c, rfl⟩
    exact form_utf8EncodeChar c

/-- Only the first byte of a form does not go on with the character. -/
theorem Form.continues {a : UInt8} {more : List UInt8} (h : Form (a :: more)) :
    ¬ Continues a ∧ ∀ b ∈ more, Continues b := by
  have lead (outside : a.toNat ≤ 0x7F ∨ 0xC0 ≤ a.toNat) : ¬ Continues a := by
    rintro ⟨low, high⟩
    omega
  cases h with
  | one low => exact ⟨lead (.inl low), List.forall_mem_nil _⟩
  | two low _ hb => exact ⟨lead (.inr (by omega)), by simpa using hb⟩
  | three low _ hb hc => exact ⟨lead (.inr (by omega)), by simpa using ⟨hb, hc⟩⟩
  | four low _ hb hc hd => exact ⟨lead (.inr (by omega)), by simpa using ⟨hb, hc, hd⟩⟩

/-! ## Bytes of texts -/

/-- The bytes are forms of characters, one after another. -/
inductive WellFormed : List UInt8 → Prop
  | nil : WellFormed []
  | cons {form bytes : List UInt8} : Form form → WellFormed bytes → WellFormed (form ++ bytes)

theorem wellFormed_encode (t : Text) : WellFormed (encode t) := by
  induction t with
  | nil => exact .nil
  | cons c t ih => exact .cons (form_utf8EncodeChar c) ih

theorem wellFormed_iff {bytes : List UInt8} : WellFormed bytes ↔ ∃ t, bytes = encode t := by
  constructor
  · intro h
    induction h with
    | nil => exact ⟨[], rfl⟩
    | cons form _ ih =>
      obtain ⟨c, rfl⟩ := form_iff.1 form
      obtain ⟨t, rfl⟩ := ih
      exact ⟨c :: t, rfl⟩
  · rintro ⟨t, rfl⟩
    exact wellFormed_encode t

/-! ## The longest well-formed beginning -/

/-- The bytes begin with those of a text where what is read begins with the text. -/
theorem prefix_decode_iff {t : Text} {bytes : List UInt8} :
    t <+: decode bytes ↔ encode t <+: bytes := by
  constructor
  · rintro ⟨rest, whole⟩
    have begins : encode t <+: encode (decode bytes) := by
      rw [← whole, encode_append]
      exact List.prefix_append (encode t) (encode rest)
    exact begins.trans (encode_decode_isPrefix bytes)
  · rintro ⟨rest, rfl⟩
    rw [decode_encode_append]
    exact List.prefix_append t (decode rest)

/-- The beginning of the bytes is well formed, and no longer one is. -/
structure LongestWellFormed (bytes start : List UInt8) : Prop where
  begins : start <+: bytes
  wellFormed : WellFormed start
  longest : ∀ longer, longer <+: bytes → start.length < longer.length → ¬ WellFormed longer

theorem longestWellFormed_decode (bytes : List UInt8) :
    LongestWellFormed bytes (encode (decode bytes)) := by
  refine ⟨encode_decode_isPrefix bytes, wellFormed_encode _, fun longer begins more well => ?_⟩
  obtain ⟨t, rfl⟩ := wellFormed_iff.1 well
  have := size_le_of_isPrefix (prefix_decode_iff.2 begins)
  rw [length_encode, length_encode] at more
  omega

/-- Reading stops at what would be a surrogate. -/
example : decode [0x6F, 0xED, 0xA0, 0x80, 0x6B] = ['o'] := by decide +kernel

theorem encode_decode_eq_iff {bytes : List UInt8} :
    encode (decode bytes) = bytes ↔ WellFormed bytes := by
  constructor
  · intro whole
    exact whole ▸ wellFormed_encode (decode bytes)
  · intro well
    obtain ⟨t, rfl⟩ := wellFormed_iff.1 well
    rw [decode_encode]

end SerialConsole.Text
