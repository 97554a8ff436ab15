/-
Texts and the bytes they take: `size` counts UTF-8 bytes, `clip` keeps as many whole characters as
a budget of bytes allows. What `clip` keeps fits (`size_clip_le`), begins the text (`clip_isPrefix`),
and every beginning that fits is a beginning of it (`prefix_clip`).
-/
namespace SerialConsole

/-- A text is its characters in order. -/
abbrev Text := List Char

namespace Text

/-! ## Size -/

/-- The number of bytes of the text in UTF-8. -/
def size : Text → Nat
  | [] => 0
  | c :: t => c.utf8Size + size t

@[simp] theorem size_nil : size [] = 0 := rfl

@[simp] theorem size_cons (c : Char) (t : Text) : size (c :: t) = c.utf8Size + size t := rfl

@[simp] theorem size_append (s t : Text) : size (s ++ t) = size s + size t := by
  induction s with
  | nil => simp
  | cons c s ih => simp [ih, Nat.add_assoc]

theorem size_le_of_isPrefix {s t : Text} (h : s <+: t) : size s ≤ size t := by
  obtain ⟨u, rfl⟩ := h
  simp

theorem length_le_size (t : Text) : t.length ≤ size t := by
  induction t with
  | nil => simp
  | cons c t ih =>
    have := c.utf8Size_pos
    simp only [List.length_cons, size_cons]
    omega

/-! ## Cutting to a budget of bytes -/

/-- The longest beginning of the text that takes at most `budget` bytes. -/
def clip : Text → Nat → Text
  | [], _ => []
  | c :: t, budget => if c.utf8Size ≤ budget then c :: clip t (budget - c.utf8Size) else []

@[simp] theorem clip_nil (budget : Nat) : clip [] budget = [] := rfl

theorem clip_cons (c : Char) (t : Text) (budget : Nat) :
    clip (c :: t) budget =
      if c.utf8Size ≤ budget then c :: clip t (budget - c.utf8Size) else [] := rfl

@[simp] theorem clip_zero (t : Text) : clip t 0 = [] := by
  cases t with
  | nil => rfl
  | cons c t =>
    have := c.utf8Size_pos
    rw [clip_cons, if_neg (by omega)]

theorem size_clip_le (t : Text) (budget : Nat) : size (clip t budget) ≤ budget := by
  induction t generalizing budget with
  | nil => simp
  | cons c t ih =>
    rw [clip_cons]
    split
    · have := ih (budget - c.utf8Size)
      simp only [size_cons]
      omega
    · simp

theorem clip_isPrefix (t : Text) (budget : Nat) : clip t budget <+: t := by
  induction t generalizing budget with
  | nil => simp
  | cons c t ih =>
    rw [clip_cons]
    split
    · exact List.cons_prefix_cons.2 ⟨rfl, ih _⟩
    · exact List.nil_prefix

/-- No beginning that fits is longer. -/
theorem prefix_clip {s t : Text} {budget : Nat} (h : s <+: t) (fits : size s ≤ budget) :
    s <+: clip t budget := by
  induction s generalizing t budget with
  | nil => exact List.nil_prefix
  | cons c s ih =>
    obtain ⟨u, rfl⟩ := h
    simp only [size_cons] at fits
    rw [List.cons_append, clip_cons, if_pos (by omega)]
    exact List.cons_prefix_cons.2 ⟨rfl, ih (List.prefix_append s u) (by omega)⟩

/-- A text that fits is kept whole. -/
theorem clip_eq_self {t : Text} {budget : Nat} (fits : size t ≤ budget) : clip t budget = t :=
  (clip_isPrefix t budget).eq_of_length_le (prefix_clip (List.prefix_refl t) fits).length_le

end Text

end SerialConsole
