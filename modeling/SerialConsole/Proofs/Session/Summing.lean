/-
The sum of the arguments of a command. If they are all numerals, their saturating sum is printed
(`sum_of_numerals`), and otherwise the first that is none is named (`sum_of_misfit`). What there is to
say about saturating sums then holds of what is printed, for any line and any delimiter (`add_sums`).
-/
import SerialConsole.Proofs.Line.Remaining
import SerialConsole.Proofs.Text.Numeral
import SerialConsole.Session.Reply
import Mathlib.Data.List.Forall2

namespace SerialConsole.Reply

open Numeral

/-! ## Numerals and others -/

/-- What is printed where an argument is no numeral. -/
def misfit (argument : Text) : Text :=
  line ("add: ".toList ++ quoted argument ++ " is not a number".toList)

variable {arguments before after : List Text} {argument : Text} {values : List Int} {total : Int}

/-- Numerals are added up. -/
theorem sum_of_numerals (numerals : List.Forall₂ Denotes arguments values) :
    sum total arguments = line (write (saturatingSum total values)) := by
  induction numerals generalizing total with
  | nil => rfl
  | cons numeral _ ih =>
    rw [sum, read?_eq_some_iff.2 numeral]
    exact ih

/-- The sum ends at the first argument that is no numeral. -/
theorem sum_of_misfit (numerals : ∀ x ∈ before, ∃ v, Denotes x v)
    (other : ∀ v, ¬ Denotes argument v) :
    sum total (before ++ argument :: after) = misfit argument := by
  induction before generalizing total with
  | nil =>
    rw [List.nil_append, sum, read?_eq_none_iff.2 other]
    rfl
  | cons x before ih =>
    rw [List.forall_mem_cons] at numerals
    obtain ⟨⟨v, numeral⟩, numerals⟩ := numerals
    rw [List.cons_append, sum, read?_eq_some_iff.2 numeral]
    exact ih numerals

/-- Where some argument is no numeral, there is a first. -/
theorem exists_first_misfit (h : ∃ x ∈ arguments, ∀ v, ¬ Denotes x v) :
    ∃ before argument after, arguments = before ++ argument :: after ∧
      (∀ x ∈ before, ∃ v, Denotes x v) ∧ ∀ v, ¬ Denotes argument v := by
  obtain ⟨x, hx, other⟩ := h
  have found : (arguments.find? fun x => (read? x).isNone).isSome = true :=
    List.find?_isSome.2 ⟨x, hx, Option.isNone_iff_eq_none.2 (read?_eq_none_iff.2 other)⟩
  obtain ⟨argument, first⟩ := Option.isSome_iff_exists.1 found
  obtain ⟨misfit, before, after, parts, numerals⟩ := List.find?_eq_some_iff_append.1 first
  refine ⟨before, argument, after, parts, fun y hy => ?_,
    read?_eq_none_iff.1 (Option.isNone_iff_eq_none.1 misfit)⟩
  have read : (read? y).isSome = true := by simpa using numerals y hy
  obtain ⟨v, hv⟩ := Option.isSome_iff_exists.1 read
  exact ⟨v, read?_eq_some_iff.1 hv⟩

theorem exists_values (h : ∀ x ∈ arguments, ∃ v, Denotes x v) :
    ∃ values, List.Forall₂ Denotes arguments values := by
  induction arguments with
  | nil => exact ⟨[], .nil⟩
  | cons x arguments ih =>
    rw [List.forall_mem_cons] at h
    obtain ⟨v, numeral⟩ := h.1
    obtain ⟨values, numerals⟩ := ih h.2
    exact ⟨v :: values, .cons numeral numerals⟩

/-! ## What is printed -/

/-- The arguments of a line are its pieces behind the first. -/
theorem add_eq_sum (written : Text) (d : Char) :
    add ⟨((Cursor.ofText written).next [d]).2, d⟩ = sum 0 (Text.pieces (· = d) written).tail := by
  have behind := Arguments.toList_next ⟨.ofText written, d⟩
  rw [Arguments.toList_eq_pieces ⟨.ofText written, d⟩, List.drop_one] at behind
  exact congrArg (sum 0) behind

/-- Numerals that are all on one side of zero may come in any order. -/
theorem sum_of_perm {arguments' : List Text} (numerals : List.Forall₂ Denotes arguments values)
    (oneSided : OneSided values) (perm : arguments'.Perm arguments) :
    sum 0 arguments' = line (write (clamp values.sum)) := by
  obtain ⟨values', numerals', same⟩ := List.perm_comp_forall₂ perm numerals
  have oneSided' : OneSided values' := by
    unfold OneSided at oneSided ⊢
    simpa only [same.mem_iff] using oneSided
  rw [sum_of_numerals numerals', saturatingSum_of_oneSided inRange_zero oneSided', Int.zero_add,
    same.sum_eq]

/-- The arguments of a command are added up. If some of them are no numerals of 64 bits, the first of
these is named and nothing else is printed. Otherwise one number of 64 bits is printed; it is the sum if
no sum on the way leaves the range, and if the numbers are all on one side of zero it is the sum, clamped
to the range, whatever the order of the arguments. -/
theorem add_sums (written : Text) (d : Char) :
    let arguments := (Text.pieces (· = d) written).tail
    let printed := add ⟨((Cursor.ofText written).next [d]).2, d⟩
    ((∃ x ∈ arguments, ∀ v, ¬ Denotes x v) →
      ∃ before argument after, arguments = before ++ argument :: after ∧
        (∀ x ∈ before, ∃ v, Denotes x v) ∧ (∀ v, ¬ Denotes argument v) ∧
        printed = line ("add: ".toList ++ quoted argument ++ " is not a number".toList)) ∧
    ((∀ x ∈ arguments, ∃ v, Denotes x v) →
      ∃ values v, List.Forall₂ Denotes arguments values ∧ printed = line (write v) ∧
        Denotes (write v) v ∧
        ((∀ n, InRange (values.take n).sum) → v = values.sum) ∧
        (OneSided values → v = clamp values.sum ∧
          ∀ written' d', (Text.pieces (· = d') written').tail.Perm arguments →
            add ⟨((Cursor.ofText written').next [d']).2, d'⟩ = printed)) := by
  intro arguments printed
  have all : printed = sum 0 arguments := add_eq_sum written d
  constructor
  · intro misfits
    obtain ⟨before, argument, after, parts, numerals, other⟩ := exists_first_misfit misfits
    refine ⟨before, argument, after, parts, numerals, other, ?_⟩
    rw [all, parts]
    exact sum_of_misfit numerals other
  · intro each
    obtain ⟨values, numerals⟩ := exists_values each
    have value : printed = line (write (saturatingSum 0 values)) := all.trans (sum_of_numerals numerals)
    refine ⟨values, saturatingSum 0 values, numerals, value,
      ⟨spells_write _, inRange_saturatingSum inRange_zero⟩, fun within => ?_, fun oneSided => ?_⟩
    · rw [saturatingSum_of_inRange (by simpa using within), Int.zero_add]
    · have clamped := saturatingSum_of_oneSided inRange_zero oneSided
      rw [Int.zero_add] at clamped
      refine ⟨clamped, fun written' d' perm => ?_⟩
      rw [add_eq_sum, sum_of_perm numerals oneSided perm, value, clamped]

/-- Without the order nothing could be said of this sum: the other way round it is one more. -/
example : add ⟨.ofText "9223372036854775807 1 -1".toList, ' '⟩ = "9223372036854775806\n".toList := by
  decide +kernel

end SerialConsole.Reply
