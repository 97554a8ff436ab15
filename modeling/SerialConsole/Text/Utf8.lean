/-
UTF-8. `encode` gives a text's bytes; `decode` reads the longest well-formed beginning of a list
of bytes. What is read, written again, begins the bytes (`encode_decode_isPrefix`), and what was
written is read back whatever follows it (`decode_encode_append`).
-/
import SerialConsole.Text.Basic

namespace SerialConsole.Text

/-- The bytes of the text. -/
def encode (t : Text) : List UInt8 :=
  t.flatMap String.utf8EncodeChar

@[simp] theorem encode_nil : encode [] = [] := rfl

@[simp] theorem encode_cons (c : Char) (t : Text) :
    encode (c :: t) = String.utf8EncodeChar c ++ encode t := rfl

@[simp] theorem encode_append (s t : Text) : encode (s ++ t) = encode s ++ encode t := by
  simp [encode]

@[simp] theorem length_encode (t : Text) : (encode t).length = size t := by
  induction t with
  | nil => rfl
  | cons c t ih => simp [ih]

/-! ## One character -/

/-- The character whose form the bytes begin with. -/
def decodeChar? (bytes : List UInt8) : Option Char :=
  bytes.toByteArray.utf8DecodeChar? 0

@[simp] theorem decodeChar?_nil : decodeChar? [] = none := rfl

theorem decodeChar?_append (c : Char) (bytes : List UInt8) :
    decodeChar? (String.utf8EncodeChar c ++ bytes) = some c := by
  simp [decodeChar?, ByteArray.utf8DecodeChar?_utf8EncodeChar_append]

theorem decodeChar?_eq_some_iff {bytes : List UInt8} {c : Char} :
    decodeChar? bytes = some c ↔ ∃ rest, bytes = String.utf8EncodeChar c ++ rest := by
  constructor
  · intro h
    obtain ⟨rest, h⟩ := ByteArray.exists_of_utf8DecodeChar?_eq_some h
    exact ⟨rest.data.toList, by simpa using congrArg (fun b : ByteArray => b.data.toList) h⟩
  · rintro ⟨rest, rfl⟩
    exact decodeChar?_append c rest

/-! ## The longest well-formed beginning -/

/-- The text of the longest well-formed beginning of the bytes. -/
def decode (bytes : List UInt8) : Text :=
  go 0 bytes
where
  /-- Reads on after `skip` more bytes of the character before. -/
  go : Nat → List UInt8 → Text
    | _, [] => []
    | skip + 1, _ :: bytes => go skip bytes
    | 0, b :: bytes =>
      match decodeChar? (b :: bytes) with
      | some c => c :: go (c.utf8Size - 1) bytes
      | none => []

@[simp] theorem decode_nil : decode [] = [] := rfl

theorem decode_go (skip : Nat) (bytes : List UInt8) :
    decode.go skip bytes = decode (bytes.drop skip) := by
  induction bytes generalizing skip with
  | nil => cases skip <;> rfl
  | cons b bytes ih =>
    cases skip with
    | zero => rfl
    | succ skip => simpa [decode.go] using ih skip

theorem decode_of_decodeChar?_eq_none {bytes : List UInt8} (h : decodeChar? bytes = none) :
    decode bytes = [] := by
  cases bytes with
  | nil => rfl
  | cons b bytes => simp [decode, decode.go, h]

theorem decode_append (c : Char) (bytes : List UInt8) :
    decode (String.utf8EncodeChar c ++ bytes) = c :: decode bytes := by
  have hc := decodeChar?_append c bytes
  have hn := String.length_utf8EncodeChar c
  cases h : String.utf8EncodeChar c with
  | nil => exact absurd h String.utf8EncodeChar_ne_nil
  | cons b tail =>
    rw [h] at hc hn
    simp only [List.length_cons] at hn
    simp only [List.cons_append] at hc ⊢
    rw [decode, decode.go, hc]
    show c :: decode.go (c.utf8Size - 1) (tail ++ bytes) = c :: decode bytes
    rw [← hn, Nat.add_sub_cancel, decode_go, List.drop_left]

theorem decode_encode_append (t : Text) (bytes : List UInt8) :
    decode (encode t ++ bytes) = t ++ decode bytes := by
  induction t with
  | nil => rfl
  | cons c t ih => rw [encode_cons, List.append_assoc, decode_append, ih, List.cons_append]

theorem decode_encode (t : Text) : decode (encode t) = t := by
  simpa using decode_encode_append t []

theorem encode_decode_isPrefix (bytes : List UInt8) : encode (decode bytes) <+: bytes := by
  induction h : bytes.length using Nat.strongRecOn generalizing bytes with
  | ind n ih =>
    cases hc : decodeChar? bytes with
    | none => simp [decode_of_decodeChar?_eq_none hc]
    | some c =>
      obtain ⟨rest, rfl⟩ := decodeChar?_eq_some_iff.1 hc
      have := c.utf8Size_pos
      rw [decode_append, encode_cons, List.prefix_append_right_inj]
      exact ih _ (by simp at h; omega) _ rfl

end SerialConsole.Text
