/-
The line being received: at most `capacity` bytes, kept in order. A byte that finds no room is
dropped and changes nothing, so the line always holds the first bytes since it was last cleared
(`bytes_pushAll`). Its text is the longest well-formed beginning of its bytes.
-/
import SerialConsole.Text.Utf8

namespace SerialConsole

/-- A line of at most `capacity` bytes. -/
structure Line (capacity : Nat) where
  /-- The bytes kept so far. -/
  bytes : List UInt8
  length_le : bytes.length ≤ capacity

/-- What became of a byte: it is kept at the end of the line, or there was no room. -/
inductive Receipt
  | kept
  | dropped
  deriving DecidableEq, Repr

namespace Line

variable {capacity : Nat}

@[ext] theorem ext {l m : Line capacity} (h : l.bytes = m.bytes) : l = m := by
  cases l; cases m; cases h; rfl

/-- A line with nothing in it. -/
def empty : Line capacity := ⟨[], Nat.zero_le _⟩

@[simp] theorem bytes_empty : (empty : Line capacity).bytes = [] := rfl

/-- A byte is kept while there is room for it. -/
def push (l : Line capacity) (b : UInt8) : Line capacity × Receipt :=
  if room : l.bytes.length < capacity then
    (⟨l.bytes ++ [b], by rw [List.length_append]; exact room⟩, .kept)
  else
    (l, .dropped)

/-- The line after several bytes, with a receipt for each. -/
def pushAll (l : Line capacity) : List UInt8 → Line capacity × List Receipt
  | [] => (l, [])
  | b :: bytes =>
    let (l, receipt) := l.push b
    let (l, receipts) := l.pushAll bytes
    (l, receipt :: receipts)

/-- The text of the longest well-formed beginning of the line. -/
def text (l : Line capacity) : Text := Text.decode l.bytes

/-- The number of bytes kept. -/
def size (l : Line capacity) : Nat := l.bytes.length

/-- Nothing is kept. -/
def isEmpty (l : Line capacity) : Bool := l.bytes.isEmpty

/-- There is no room for another byte. -/
def isFull (l : Line capacity) : Bool := l.bytes.length == capacity

/-! ## What a line keeps -/

theorem bytes_push (l : Line capacity) (b : UInt8) :
    (l.push b).1.bytes = (l.bytes ++ [b]).take capacity := by
  have := l.length_le
  unfold push
  split
  · exact (List.take_of_length_le (by simp; omega)).symm
  · rw [List.take_append_of_le_length (by omega), List.take_of_length_le l.length_le]

theorem receipt_push (l : Line capacity) (b : UInt8) :
    (l.push b).2 = if l.bytes.length < capacity then .kept else .dropped := by
  unfold push
  split <;> rfl

theorem take_take_append {α : Type} (n : Nat) (xs ys : List α) :
    (xs.take n ++ ys).take n = (xs ++ ys).take n := by
  have : n - min n xs.length = n - xs.length := by omega
  simp [List.take_append, List.take_take, this]

theorem bytes_pushAll (l : Line capacity) (bytes : List UInt8) :
    (l.pushAll bytes).1.bytes = (l.bytes ++ bytes).take capacity := by
  induction bytes generalizing l with
  | nil => simp [pushAll, List.take_of_length_le l.length_le]
  | cons b bytes ih => simp [pushAll, ih, bytes_push, take_take_append]

end Line

end SerialConsole
