/-
ASCII: the bytes below 128 are the characters of the same numbers. A list of such bytes reads as
the text with one character for each (`decode_of_ascii`), takes as many bytes as it has characters
(`size_ofBytes`), and every text of such characters comes from its bytes (`ofBytes_encode`).
-/
import SerialConsole.Text.Utf8
import Mathlib.Logic.Function.Basic

namespace SerialConsole.Text

/-- The text whose characters have the numbers of the bytes. -/
def ofBytes (bytes : List UInt8) : Text := bytes.map Char.ofUInt8

@[simp] theorem ofBytes_nil : ofBytes [] = [] := rfl

@[simp] theorem ofBytes_cons (b : UInt8) (bytes : List UInt8) :
    ofBytes (b :: bytes) = Char.ofUInt8 b :: ofBytes bytes := rfl

theorem ofBytes_append (first more : List UInt8) :
    ofBytes (first ++ more) = ofBytes first ++ ofBytes more :=
  List.map_append

theorem ofBytes_replicate (n : Nat) (b : UInt8) :
    ofBytes (List.replicate n b) = List.replicate n (Char.ofUInt8 b) :=
  List.map_replicate

theorem ofBytes_take (n : Nat) (bytes : List UInt8) :
    ofBytes (bytes.take n) = (ofBytes bytes).take n :=
  List.map_take

/-! ## One character -/

@[simp] theorem toNat_ofUInt8 (b : UInt8) : (Char.ofUInt8 b).toNat = b.toNat := rfl

theorem ofUInt8_injective : Function.Injective Char.ofUInt8 := by
  intro a b h
  have := congrArg Char.toNat h
  simpa [UInt8.toNat_inj] using this

theorem utf8Size_ofUInt8 {b : UInt8} (h : b < 0x80) : (Char.ofUInt8 b).utf8Size = 1 := by
  rw [Char.utf8Size_eq_one_iff]
  show b.toUInt32 ≤ 127
  have := UInt8.lt_iff_toNat_lt.1 h
  rw [UInt32.le_iff_toNat_le]
  simp at *; omega

theorem utf8EncodeChar_ofUInt8 {b : UInt8} (h : b < 0x80) :
    String.utf8EncodeChar (Char.ofUInt8 b) = [b] := by
  rw [String.utf8EncodeChar_eq_singleton (utf8Size_ofUInt8 h)]
  show [b.toUInt32.toUInt8] = [b]
  simp

theorem utf8Size_ascii {c : Char} (h : c.toNat < 0x80) : c.utf8Size = 1 :=
  Char.utf8Size_eq_one_iff.2 (UInt32.le_iff_toNat_le.2 (by show c.toNat ≤ 127; omega))

theorem utf8EncodeChar_ascii {c : Char} (h : c.toNat < 0x80) :
    String.utf8EncodeChar c = [c.toNat.toUInt8] := by
  rw [String.utf8EncodeChar_eq_singleton (utf8Size_ascii h)]
  rfl

theorem ofUInt8_toNat {c : Char} (h : c.toNat < 0x80) : Char.ofUInt8 c.toNat.toUInt8 = c := by
  apply Char.ext
  apply UInt32.toNat_inj.1
  show (c.toNat.toUInt8).toNat = c.toNat
  simp; omega

/-! ## Texts -/

theorem encode_ofBytes {bytes : List UInt8} (h : ∀ b ∈ bytes, b < 0x80) :
    encode (ofBytes bytes) = bytes := by
  induction bytes with
  | nil => rfl
  | cons b bytes ih =>
    rw [List.forall_mem_cons] at h
    rw [ofBytes_cons, encode_cons, utf8EncodeChar_ofUInt8 h.1, ih h.2]
    rfl

theorem decode_of_ascii {bytes : List UInt8} (h : ∀ b ∈ bytes, b < 0x80) :
    decode bytes = ofBytes bytes := by
  rw [← encode_ofBytes h, decode_encode, encode_ofBytes h]

theorem size_ofBytes {bytes : List UInt8} (h : ∀ b ∈ bytes, b < 0x80) :
    size (ofBytes bytes) = bytes.length := by
  rw [← length_encode, encode_ofBytes h]

theorem ofBytes_encode {t : Text} (h : ∀ c ∈ t, c.toNat < 0x80) : ofBytes (encode t) = t := by
  induction t with
  | nil => rfl
  | cons c t ih =>
    rw [List.forall_mem_cons] at h
    rw [encode_cons, utf8EncodeChar_ascii h.1, List.singleton_append, ofBytes_cons,
      ofUInt8_toNat h.1, ih h.2]

/-- Each character takes one byte, so a budget of bytes is a number of characters. -/
theorem clip_of_ascii {t : Text} (h : ∀ c ∈ t, c.toNat < 0x80) (budget : Nat) :
    clip t budget = t.take budget := by
  induction t generalizing budget with
  | nil => simp
  | cons c t ih =>
    rw [List.forall_mem_cons] at h
    rw [clip_cons, utf8Size_ascii h.1]
    cases budget with
    | zero => rfl
    | succ budget => rw [if_pos (by omega), ih h.2, Nat.add_sub_cancel, List.take_succ_cons]

/-- The bytes of an ASCII text are the numbers of its characters. -/
theorem exists_of_mem_encode {t : Text} (h : ∀ c ∈ t, c.toNat < 0x80) {b : UInt8}
    (hb : b ∈ encode t) : Char.ofUInt8 b ∈ t := by
  rw [← ofBytes_encode h]
  exact List.mem_map_of_mem hb

end SerialConsole.Text
