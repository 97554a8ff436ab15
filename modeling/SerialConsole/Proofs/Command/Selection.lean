/-
Which command a token selects: the first whose name is the token, as far as names count
(`index?_eq_some_iff`, `Selects`), and none if no name is (`index?_eq_none_iff`).
-/
import SerialConsole.Command.Registry

namespace SerialConsole.Registry

variable {limit : Nat} {H : Type} {r : Registry limit H} {token : Text}

theorem answersTo_get (i : Fin r.size) :
    (r.get i).answersTo token = true ↔ (r.get i).name = Text.clip token limit :=
  Command.answersTo_iff.trans eq_comm

theorem index?_eq_some_iff {i : Fin r.size} :
    r.index? token = some i ↔
      (r.get i).name = Text.clip token limit ∧ ∀ j < i, (r.get j).name ≠ Text.clip token limit := by
  unfold index?
  refine List.findFinIdx?_eq_some_iff.trans (and_congr (answersTo_get i) ?_)
  constructor
  · intro h j hj named
    exact h j hj ((answersTo_get j).2 named)
  · intro h j hj answers
    exact h j hj ((answersTo_get j).1 answers)

theorem index?_eq_none_iff :
    r.index? token = none ↔ ∀ i, (r.get i).name ≠ Text.clip token limit := by
  unfold index?
  refine List.findFinIdx?_eq_none_iff.trans ?_
  constructor
  · intro h i named
    exact h (r.get i) (List.get_mem ..) ((answersTo_get i).2 named)
  · intro h c hc answers
    obtain ⟨i, rfl⟩ := List.get_of_mem hc
    exact h i ((answersTo_get i).1 answers)

/-- The command at the place is the first with the name of the token, as far as names count. -/
structure Selects (r : Registry limit H) (token : Text) (i : Fin r.size) : Prop where
  named : (r.get i).name = Text.clip token limit
  first : ∀ j < i, (r.get j).name ≠ Text.clip token limit

theorem index?_eq_some_iff_selects {i : Fin r.size} : r.index? token = some i ↔ r.Selects token i :=
  index?_eq_some_iff.trans ⟨fun h => ⟨h.1, h.2⟩, fun h => ⟨h.named, h.first⟩⟩

/-- Only what counts of a token matters. -/
theorem Selects.congr {other : Text} {i : Fin r.size} (h : r.Selects token i)
    (same : Text.clip other limit = Text.clip token limit) : r.Selects other i :=
  ⟨same ▸ h.named, same ▸ h.first⟩

/-- A name that is there is selected, by the first command that has it. -/
theorem exists_selects (h : Text.clip token limit ∈ r.names) : ∃ i, r.Selects token i := by
  cases hs : r.index? token with
  | some i => exact ⟨i, index?_eq_some_iff_selects.1 hs⟩
  | none =>
    obtain ⟨c, hc, named⟩ := List.mem_map.1 h
    obtain ⟨i, rfl⟩ := List.get_of_mem hc
    exact absurd named (index?_eq_none_iff.1 hs i)

end SerialConsole.Registry
