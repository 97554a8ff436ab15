/-
Blanks at the ends of a text. Trimming finds what stands between blanks (`trim_append`) and takes
off nothing else (`exists_blank_trim`, `trimmed_trim`), so there is one way only to take a text apart
into what is trimmed off and what is left (`blank_append_inj`).
-/
import SerialConsole.Text.Blank
import Mathlib.Data.List.Basic
import Mathlib.Data.List.DropRight

namespace SerialConsole.Text

/-- There is nothing but blanks. -/
def Blank (t : Text) : Prop := ∀ c ∈ t, isBlank c = true

/-- There is something, and no blank at either end. -/
structure Trimmed (t : Text) : Prop where
  nonempty : t ≠ []
  first : ∀ c ∈ t.head?, isBlank c = false
  last : ∀ c ∈ t.getLast?, isBlank c = false

theorem blank_nil : Blank [] := List.forall_mem_nil _

theorem blank_space : Blank [' '] := by
  intro c hc
  cases List.mem_singleton.1 hc
  decide

theorem Blank.append {s t : Text} (hs : s.Blank) (ht : t.Blank) : (s ++ t).Blank := by
  intro c hc
  rcases List.mem_append.1 hc with h | h
  · exact hs c h
  · exact ht c h

theorem Blank.not_mem {t : Text} (blank : t.Blank) {c : Char} (shows : isBlank c = false) :
    c ∉ t := by
  intro hc
  rw [blank c hc] at shows
  cases shows

/-! ## Trimming -/

theorem trimLeft_append {before : Text} (blank : before.Blank) (t : Text) :
    trimLeft (before ++ t) = trimLeft t :=
  List.dropWhile_append_of_pos blank

theorem trimRight_append {after : Text} (t : Text) (blank : after.Blank) :
    trimRight (t ++ after) = trimRight t := by
  unfold trimRight
  rw [List.reverse_append, List.dropWhile_append_of_pos fun c hc => blank c (List.mem_reverse.1 hc)]

theorem trimLeft_eq_self {t : Text} (first : ∀ c ∈ t.head?, isBlank c = false) :
    trimLeft t = t := by
  cases t with
  | nil => rfl
  | cons c t => exact List.dropWhile_cons_of_neg (by simp [first c rfl])

theorem trimRight_eq_self {t : Text} (last : ∀ c ∈ t.getLast?, isBlank c = false) :
    trimRight t = t := by
  have first : ∀ c ∈ t.reverse.head?, isBlank c = false := by rwa [List.head?_reverse]
  rw [trimRight, show List.dropWhile isBlank t.reverse = trimLeft t.reverse from rfl,
    trimLeft_eq_self first, List.reverse_reverse]

/-- Blanks around a text are found. -/
theorem trim_append {before t after : Text} (front : before.Blank) (trimmed : t.Trimmed)
    (back : after.Blank) : trim (before ++ t ++ after) = t := by
  have first : ∀ c ∈ (t ++ after).head?, isBlank c = false := by
    rw [List.head?_append_of_ne_nil _ trimmed.nonempty]
    exact trimmed.first
  rw [trim, List.append_assoc, trimLeft_append front, trimLeft_eq_self first,
    trimRight_append t back, trimRight_eq_self trimmed.last]

/-- Blanks around a text are told from it in one way only. -/
theorem blank_append_inj {before before' t t' after after' : Text} (front : before.Blank)
    (trimmed : t.Trimmed) (back : after.Blank) (front' : before'.Blank) (trimmed' : t'.Trimmed)
    (back' : after'.Blank) (same : before ++ t ++ after = before' ++ t' ++ after') :
    before = before' ∧ t = t' ∧ after = after' := by
  have core : t = t' := by
    rw [← trim_append front trimmed back, same, trim_append front' trimmed' back']
  have leading (before t after : Text) (front : before.Blank) (trimmed : t.Trimmed) :
      (before ++ t ++ after).takeWhile isBlank = before := by
    obtain ⟨c, t, rfl⟩ := List.exists_cons_of_ne_nil trimmed.nonempty
    have shows : isBlank c = false := trimmed.first c rfl
    rw [List.append_assoc, List.takeWhile_append_of_pos front, List.cons_append,
      List.takeWhile_cons_of_neg (by simp [shows]), List.append_nil]
  have leads : before = before' := by
    rw [← leading before t after front trimmed, same, leading before' t' after' front' trimmed']
  rw [leads, core] at same
  exact ⟨leads, core, List.append_cancel_left same⟩

theorem trim_of_blank {t : Text} (blank : t.Blank) : trim t = [] := by
  have nothing := trimLeft_append blank []
  rw [List.append_nil] at nothing
  rw [trim, nothing]
  rfl

/-- What is trimmed off is blank. -/
theorem exists_blank_trim (t : Text) :
    ∃ before after, before.Blank ∧ after.Blank ∧ t = before ++ trim t ++ after := by
  refine ⟨t.takeWhile isBlank, ((trimLeft t).reverse.takeWhile isBlank).reverse, ?_, ?_, ?_⟩
  · exact fun c hc => List.mem_takeWhile_imp hc
  · exact fun c hc => List.mem_takeWhile_imp (List.mem_reverse.1 hc)
  · calc t = t.takeWhile isBlank ++ trimLeft t := List.takeWhile_append_dropWhile.symm
      _ = t.takeWhile isBlank ++ (trim t ++ ((trimLeft t).reverse.takeWhile isBlank).reverse) := by
        rw [trim, trimRight, ← List.reverse_append, List.takeWhile_append_dropWhile,
          List.reverse_reverse]
      _ = _ := (List.append_assoc ..).symm

theorem blank_of_trim {t : Text} (nothing : trim t = []) : t.Blank := by
  obtain ⟨before, after, front, back, parts⟩ := exists_blank_trim t
  rw [parts, nothing, List.append_nil]
  exact front.append back

theorem trimmed_trim {t : Text} (nonempty : trim t ≠ []) : (trim t).Trimmed := by
  have unblank (u : Text) : ∀ c ∈ (u.dropWhile isBlank).head?, isBlank c = false := by
    intro c hc
    have := List.head?_dropWhile_not isBlank u
    rwa [Option.mem_def.1 hc] at this
  refine ⟨nonempty, fun c hc => ?_, fun c hc => ?_⟩
  · refine unblank t c ?_
    obtain ⟨more, whole⟩ : trim t <+: trimLeft t := List.rdropWhile_prefix isBlank (trimLeft t)
    show c ∈ (trimLeft t).head?
    rw [← whole, List.head?_append_of_ne_nil _ nonempty]
    exact hc
  · refine unblank (trimLeft t).reverse c ?_
    rw [trim, trimRight, List.getLast?_reverse] at hc
    exact hc

/-- A character that shows is in a text if it is in it with blanks around. -/
theorem mem_blanks_iff {before after t : Text} (front : before.Blank) (back : after.Blank) {c : Char}
    (shows : isBlank c = false) : c ∈ before ++ t ++ after ↔ c ∈ t := by
  simp [front.not_mem shows, back.not_mem shows]

/-- Blanks around a text make no difference. -/
theorem trim_blanks {before after : Text} (front : before.Blank) (t : Text) (back : after.Blank) :
    trim (before ++ t ++ after) = trim t := by
  by_cases nothing : trim t = []
  · rw [nothing, trim_of_blank ((front.append (blank_of_trim nothing)).append back)]
  · obtain ⟨more, more', front', back', parts⟩ := exists_blank_trim t
    have whole : before ++ t ++ after = before ++ more ++ trim t ++ (more' ++ after) := by
      calc before ++ t ++ after = before ++ (more ++ trim t ++ more') ++ after := by rw [← parts]
        _ = _ := by simp only [List.append_assoc]
    rw [whole, trim_append (front.append front') (trimmed_trim nothing) (back'.append back)]

theorem trim_trim (t : Text) : trim (trim t) = trim t := by
  obtain ⟨before, after, front, back, parts⟩ := exists_blank_trim t
  have := trim_blanks front (trim t) back
  rwa [← parts, eq_comm] at this

theorem trim_trimLeft (t : Text) : trim (trimLeft t) = trim t := by
  unfold trim trimLeft
  rw [List.dropWhile_idempotent]

theorem trim_trimRight (t : Text) : trim (trimRight t) = trim t := by
  have parts : trimRight t ++ (t.reverse.takeWhile isBlank).reverse = t := by
    rw [trimRight, ← List.reverse_append, List.takeWhile_append_dropWhile, List.reverse_reverse]
  have back : Blank (t.reverse.takeWhile isBlank).reverse :=
    fun c hc => List.mem_takeWhile_imp (List.mem_reverse.1 hc)
  have := trim_blanks blank_nil (trimRight t) back
  rw [List.nil_append, parts] at this
  exact this.symm

/-! ## Blanks around a character that shows -/

theorem trimLeft_append_cons {c : Char} (shows : isBlank c = false) (s t : Text) :
    trimLeft (s ++ c :: t) = trimLeft s ++ c :: t := by
  induction s with
  | nil => exact List.dropWhile_cons_of_neg (by simp [shows])
  | cons d s ih =>
    unfold trimLeft at *
    by_cases blank : isBlank d = true
    · rw [List.cons_append, List.dropWhile_cons_of_pos blank, List.dropWhile_cons_of_pos blank, ih]
    · rw [List.cons_append, List.dropWhile_cons_of_neg blank, List.dropWhile_cons_of_neg blank]
      rfl

theorem trimRight_append_cons {c : Char} (shows : isBlank c = false) (s t : Text) :
    trimRight (s ++ c :: t) = s ++ c :: trimRight t := by
  have front := trimLeft_append_cons shows t.reverse s.reverse
  unfold trimLeft at front
  unfold trimRight
  rw [List.reverse_append, List.reverse_cons, List.append_assoc, List.singleton_append, front]
  simp

/-- On each side of a character that shows, the blanks of one end are trimmed off. -/
theorem trim_append_cons {c : Char} (shows : isBlank c = false) (s t : Text) :
    trim (s ++ c :: t) = trimLeft s ++ c :: trimRight t := by
  rw [trim, trimLeft_append_cons shows, trimRight_append_cons shows]

end SerialConsole.Text
