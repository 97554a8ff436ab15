/-
Where the command stands that a token selects. Its place hangs on nothing but the names
(`place?_eq_findIdx?`), so it is that of the first name which is the token as far as names count
(`place?_eq_some_iff`), and commands behind it make no difference (`place?_of_prefix`). The fewer bytes
of a name count, the more names are the same, and the earlier the command that is selected
(`place?_of_le`).
-/
import SerialConsole.Proofs.Command.Selection
import SerialConsole.Proofs.Text.Clipping

namespace SerialConsole

/-- What is the same within a limit is the same within a lower one. -/
theorem Text.clip_eq_clip_of_le {narrow wide : Nat} (le : narrow ≤ wide) {s t : Text}
    (same : Text.clip s wide = Text.clip t wide) : Text.clip s narrow = Text.clip t narrow := by
  have cut := congrArg (Text.clip · narrow) same
  simpa only [Text.clip_clip, Nat.min_eq_right le] using cut

theorem Command.answersTo_of_le {narrow wide : Nat} {H : Type} (le : narrow ≤ wide)
    {name token : Text} {handler : H}
    (answers : (ofName name handler : Command wide H).answersTo token = true) :
    (ofName name handler : Command narrow H).answersTo token = true :=
  Command.answersTo_iff.2 (Text.clip_eq_clip_of_le le (Command.answersTo_iff.1 answers))

namespace Registry

variable {limit : Nat} {H : Type}

/-! ## Places -/

/-- The place of the first command that answers to the token, as a number. -/
def place? (r : Registry limit H) (token : Text) : Option Nat := (r.index? token).map Fin.val

theorem place?_eq_findIdx? (r : Registry limit H) (token : Text) :
    r.place? token = r.names.findIdx? (Text.clip token limit == ·) := by
  unfold place? index? names
  rw [List.findIdx?_map, List.findIdx?_eq_map_findFinIdx?_val]
  rfl

/-- The command at the place is the one that is found. -/
theorem find?_eq_map_get (r : Registry limit H) (token : Text) :
    r.find? token = (r.index? token).map r.get :=
  List.find?_eq_map_findFinIdx?_getElem

/-- Of the names, given in full, the one at the place is the first that is the same as the token as far
as names count. -/
structure FirstNamed (limit : Nat) (names : List Text) (token : Text) (i : Nat) : Prop where
  here : i < names.length
  named : Text.clip names[i] limit = Text.clip token limit
  first : ∀ j (hj : j < i), Text.clip names[j] limit ≠ Text.clip token limit

section Named

variable {r : Registry limit H} {names : List Text} {token : Text}

theorem place?_eq_findIdx?_clip (h : r.names = names.map (Text.clip · limit)) :
    r.place? token = names.findIdx? fun name => Text.clip token limit == Text.clip name limit := by
  rw [place?_eq_findIdx?, h, List.findIdx?_map]
  rfl

theorem place?_eq_some_iff (h : r.names = names.map (Text.clip · limit)) {i : Nat} :
    r.place? token = some i ↔ FirstNamed limit names token i := by
  rw [place?_eq_findIdx?_clip h, List.findIdx?_eq_some_iff_getElem]
  simp only [beq_iff_eq]
  constructor
  · rintro ⟨here, named, first⟩
    exact ⟨here, named.symm, fun j hj same => first j hj same.symm⟩
  · rintro ⟨here, named, first⟩
    exact ⟨here, named.symm, fun j hj same => first j hj same.symm⟩

theorem place?_eq_none_iff (h : r.names = names.map (Text.clip · limit)) :
    r.place? token = none ↔ ∀ name ∈ names, Text.clip name limit ≠ Text.clip token limit := by
  rw [place?_eq_findIdx?_clip h, List.findIdx?_eq_none_iff]
  simp only [beq_eq_false_iff_ne, ne_comm]

end Named

/-! ## Names behind others -/

section Longer

variable {r r' : Registry limit H} {token : Text} {i : Nat}

/-- A place that is selected is selected whatever comes behind it. -/
theorem place?_of_prefix (h : r.names <+: r'.names) (selects : r.place? token = some i) :
    r'.place? token = some i := by
  rw [place?_eq_findIdx?] at selects ⊢
  exact h.findIdx?_eq_some selects

/-- What selected nothing can select only what has come behind. -/
theorem size_le_of_place? (h : r.names <+: r'.names) (unmatched : r.place? token = none)
    (selects : r'.place? token = some i) : r.size ≤ i := by
  obtain ⟨more, whole⟩ := h
  rw [place?_eq_findIdx?] at unmatched selects
  rw [← whole, List.findIdx?_append, unmatched, Option.none_or] at selects
  obtain ⟨k, -, rfl⟩ := Option.map_eq_some_iff.1 selects
  rw [length_names]
  exact Nat.le_add_left ..

end Longer

/-! ## Other limits -/

/-- The registry with several commands after all others. -/
def addAll (r : Registry limit H) (added : List (Text × H)) : Registry limit H :=
  ⟨r.commands ++ added.map fun c => .ofName c.1 c.2⟩

theorem size_addAll (r : Registry limit H) (added : List (Text × H)) :
    (r.addAll added).size = r.size + added.length := by
  simp [addAll, size]

theorem names_addAll (r : Registry limit H) (added : List (Text × H)) :
    (r.addAll added).names = r.names ++ added.map fun c => Text.clip c.1 limit := by
  simp [addAll, names]

theorem place?_addAll_empty (added : List (Text × H)) (token : Text) :
    (empty.addAll added : Registry limit H).place? token =
      (added.map Prod.fst).findIdx? fun name => Text.clip token limit == Text.clip name limit := by
  refine place?_eq_findIdx?_clip ?_
  rw [names_addAll, List.map_map]
  exact List.nil_append _

/-- Commands under the same names are selected earlier where fewer bytes count, or at the same place: what
a token selects within the higher limit has a command before it, or is itself the command, that the token
selects within the lower. A name that is taken for a token within the higher limit is taken for it within
the lower, and so is a token for another. Where nothing is longer than the lower limit, the places are
the same. -/
theorem place?_of_le {narrow wide : Nat} (le : narrow ≤ wide) (added : List (Text × H))
    (token : Text) :
    let low : Registry narrow H := empty.addAll added
    let high : Registry wide H := empty.addAll added
    (∀ j, high.place? token = some j → ∃ i ≤ j, low.place? token = some i) ∧
    (∀ name (handler : H), (Command.ofName name handler : Command wide H).answersTo token = true →
      (Command.ofName name handler : Command narrow H).answersTo token = true) ∧
    (∀ other, Text.clip token wide = Text.clip other wide →
      Text.clip token narrow = Text.clip other narrow) ∧
    ((∀ c ∈ added, Text.size c.1 ≤ narrow) → Text.size token ≤ narrow →
      low.place? token = high.place? token) := by
  intro low high
  refine ⟨fun j selects => ?_, fun _ _ => Command.answersTo_of_le le,
    fun _ => Text.clip_eq_clip_of_le le, fun names short => ?_⟩
  · rw [place?_addAll_empty] at selects ⊢
    obtain ⟨here, rfl⟩ := List.findIdx?_eq_some_iff_findIdx_eq.1 selects
    have earlier := List.findIdx_le_findIdx (l := added.map Prod.fst)
      (p := fun name => Text.clip token wide == Text.clip name wide)
      (q := fun name => Text.clip token narrow == Text.clip name narrow)
      fun name _ same => beq_iff_eq.2 (Text.clip_eq_clip_of_le le (beq_iff_eq.1 same))
    exact ⟨_, earlier, List.findIdx?_eq_some_iff_findIdx_eq.2 ⟨by omega, rfl⟩⟩
  · have whole {t : Text} (fits : Text.size t ≤ narrow) : Text.clip t narrow = Text.clip t wide := by
      rw [Text.clip_eq_self fits, Text.clip_eq_self (Nat.le_trans fits le)]
    have same : low.names = high.names := by
      rw [names_addAll, names_addAll]
      exact List.map_congr_left fun c hc => whole (names c hc)
    rw [place?_eq_findIdx?, place?_eq_findIdx?, same, whole short]

/-- Within three bytes the last characters of token and names do not count, so the first name is taken
for the token. Within four bytes that of the token counts, while that of the first name is too wide. -/
theorem place?_of_le_wide :
    let added := [("aé€".toList, 0), ("aé!".toList, 1)]
    3 ≤ 4 ∧ (empty.addAll added : Registry 4 Nat).place? "aé!".toList = some 1 ∧
      ∃ i ≤ 1, (empty.addAll added : Registry 3 Nat).place? "aé!".toList = some i := by
  intro added
  have le : 3 ≤ 4 := by decide
  have high : (empty.addAll added : Registry 4 Nat).place? "aé!".toList = some 1 := by decide
  exact ⟨le, high, (place?_of_le le added "aé!".toList).1 1 high⟩

end Registry

end SerialConsole
