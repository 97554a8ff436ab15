/-
What tables are. An item of a table is blank, or it is a name and a path with a colon between them
and blanks wherever one likes around them; a table is such items with commas between them, at least
one of them not blank (`Table.Written`). Reading a text gives the declarations that are written in
it, in order, and fails on every text that is no table (`Table.ofText_eq_ok_iff`). All this is so in
any language: which texts are paths, and which paths they are, is for the language to say.
-/
import SerialConsole.Declaration.Table
import SerialConsole.Proofs.Line.Pieces
import SerialConsole.Proofs.Text.Trim

namespace SerialConsole

variable {P : Type} {L : Language P}

/-! ## Items -/

/-- A name: graphic characters, none of them a comma or a colon. -/
structure Declaration.IsName (name : Text) : Prop where
  nonempty : name ≠ []
  plain : ∀ c ∈ name, isGraphic c = true ∧ c ≠ ',' ∧ c ≠ ':'

/-- An item in which a declaration is written. -/
inductive Declaration.Written (L : Language P) : Text → Declaration P → Prop
  | intro {before name behind ahead path after : Text} {handler : P}
    (named : IsName name) (trimmed : path.Trimmed) (free : ',' ∉ path)
    (reads : L.ofText path = .ok handler)
    (front : before.Blank) (left : behind.Blank) (right : ahead.Blank) (back : after.Blank) :
    Written L (before ++ (name ++ behind ++ ':' :: (ahead ++ path)) ++ after) ⟨name, handler⟩

namespace Declaration

theorem range_of_isGraphic {c : Char} (h : isGraphic c = true) :
    0x21 ≤ c.toNat ∧ c.toNat ≤ 0x7E := by
  unfold isGraphic at h
  rw [Bool.and_eq_true, decide_eq_true_eq, decide_eq_true_eq] at h
  exact h

theorem not_isBlank_of_isGraphic {c : Char} (h : isGraphic c = true) : Text.isBlank c = false := by
  have range := range_of_isGraphic h
  simp only [Text.isBlank, Text.blanks, Ranges.contains, Bool.and_eq_false_iff,
    Bool.or_eq_false_iff, decide_eq_false_iff_not]
  omega

/-- In an item there is no comma. -/
theorem Written.free {item : Text} {d : Declaration P} (h : Written L item d) : ',' ∉ item := by
  obtain ⟨named, -, free, -, front, left, right, back⟩ := h
  have shows : Text.isBlank ',' = false := rfl
  simp only [List.mem_append, List.mem_cons, not_or]
  exact ⟨⟨front.not_mem shows, ⟨fun h => (named.plain _ h).2.1 rfl, left.not_mem shows⟩,
    by decide, right.not_mem shows, free⟩, back.not_mem shows⟩

theorem IsName.trimmed {name : Text} (h : IsName name) : name.Trimmed :=
  ⟨h.nonempty,
    fun c hc => not_isBlank_of_isGraphic (h.plain c (List.mem_of_mem_head? hc)).1,
    fun c hc => not_isBlank_of_isGraphic (h.plain c (List.mem_of_mem_getLast? hc)).1⟩

/-- A name, a colon and a path with the blanks between them. -/
theorem trimmed_core {name behind ahead path : Text} (named : IsName name)
    (trimmed : path.Trimmed) : Text.Trimmed (name ++ behind ++ ':' :: (ahead ++ path)) := by
  refine ⟨by simp, ?_, ?_⟩
  · rw [List.append_assoc, List.head?_append_of_ne_nil _ named.nonempty]
    exact named.trimmed.first
  · rw [← List.cons_append, ← List.append_assoc, List.getLast?_append_of_ne_nil _ trimmed.nonempty]
    exact trimmed.last

/-- An item is read at its first colon. -/
theorem ofItem_eq_ok_iff {item : Text} {d : Declaration P} :
    ofItem L item = .ok d ↔
      ∃ left right, item = left ++ ':' :: right ∧ ':' ∉ left ∧ d.name = Text.trim left ∧
        d.name ≠ [] ∧ (∀ c ∈ d.name, isGraphic c = true) ∧ Text.trim right ≠ [] ∧
        L.ofText (Text.trim right) = .ok d.handler := by
  constructor
  · intro h
    unfold ofItem at h
    split at h
    · cases h
    rename_i c right colon
    have first : c = ':' := by
      have := List.head?_dropWhile_not (· ≠ ':') item
      rw [colon] at this
      simpa using this
    subst first
    refine ⟨item.takeWhile (· ≠ ':'), right, ?_, ?_, ?_⟩
    · rw [← colon]
      exact List.takeWhile_append_dropWhile.symm
    · intro within
      have := List.mem_takeWhile_imp within
      simp at this
    -- each check that is passed leaves its condition
    simp only at h
    split at h
    · cases h
    rename_i named
    split at h
    · cases h
    rename_i graphic
    split at h
    · cases h
    rename_i there
    split at h
    · cases h
    rename_i handler reads
    cases h
    exact ⟨rfl, named, by simpa using graphic, there, reads⟩
  · rintro ⟨left, right, rfl, free, name, named, graphic, there, reads⟩
    have uncut : ∀ c ∈ left, decide (c ≠ ':') = true := by
      intro c hc
      have : c ≠ ':' := fun same => free (same ▸ hc)
      simpa using this
    have before : (left ++ ':' :: right).takeWhile (· ≠ ':') = left := by
      rw [List.takeWhile_append_of_pos uncut]
      simp
    have after : (left ++ ':' :: right).dropWhile (· ≠ ':') = ':' :: right := by
      rw [List.dropWhile_append_of_pos uncut]
      simp
    have all : d.name.find? (!isGraphic ·) = none := by
      simpa using graphic
    unfold ofItem
    rw [after, before]
    simp only [← name, named, all, there, reads, if_false]

/-- What is read from an item without the blanks at its ends is what is written in it. -/
theorem ofItem_trim_eq_ok_iff {item : Text} {d : Declaration P} (free : ',' ∉ item) :
    ofItem L (Text.trim item) = .ok d ↔ Written L item d := by
  rw [ofItem_eq_ok_iff]
  constructor
  · rintro ⟨left, right, parts, uncut, name, named, graphic, there, reads⟩
    obtain ⟨before, after, front, back, item_eq⟩ := Text.exists_blank_trim item
    obtain ⟨more, behind, front', left_blank, left_eq⟩ := Text.exists_blank_trim left
    obtain ⟨ahead, more', right_blank, back', right_eq⟩ := Text.exists_blank_trim right
    have whole : item = (before ++ more) ++
        (d.name ++ behind ++ ':' :: (ahead ++ Text.trim right)) ++ (more' ++ after) := by
      calc item = before ++ (left ++ ':' :: right) ++ after := by rw [← parts, ← item_eq]
        _ = before ++ ((more ++ d.name ++ behind) ++ ':' :: (ahead ++ Text.trim right ++ more')) ++
              after := by rw [name, ← left_eq, ← right_eq]
        _ = _ := by simp only [List.append_assoc, List.cons_append]
    rw [left_eq, ← name] at uncut
    simp only [List.mem_append, not_or] at uncut
    rw [whole] at free ⊢
    simp only [List.mem_append, List.mem_cons, not_or] at free
    refine .intro ⟨named, fun c hc => ⟨graphic c hc, ?_, ?_⟩⟩ (Text.trimmed_trim there) ?_ reads
      (front.append front') left_blank right_blank (back'.append back)
    · rintro rfl
      exact free.1.2.1.1 hc
    · rintro rfl
      exact uncut.1.2 hc
    · exact free.1.2.2.2.2
  · rintro ⟨named, trimmed, pathFree, reads, front, left, right, back⟩
    rename_i before name behind ahead path after handler
    have core : (name ++ behind ++ ':' :: (ahead ++ path)).Trimmed := trimmed_core named trimmed
    have nameAlone : Text.trim (name ++ behind) = name :=
      Text.trim_append Text.blank_nil named.trimmed left
    have pathAlone : Text.trim (ahead ++ path) = path := by
      have := Text.trim_append right trimmed Text.blank_nil
      rwa [List.append_nil] at this
    refine ⟨name ++ behind, ahead ++ path, Text.trim_append front core back, ?_, nameAlone.symm,
      named.nonempty, fun c hc => (named.plain c hc).1, ?_, ?_⟩
    · intro within
      rcases List.mem_append.1 within with inName | inBlanks
      · exact (named.plain _ inName).2.2 rfl
      · exact left.not_mem rfl inBlanks
    · rw [pathAlone]
      exact trimmed.nonempty
    · rw [pathAlone]
      exact reads

end Declaration

/-! ## Tables -/

namespace Table

/-- Items of a table and the declarations that are written in them, in order. -/
inductive Items (L : Language P) : List Text → List (Declaration P) → Prop
  | nil : Items L [] []
  | blank {item : Text} {items : List Text} {declarations : List (Declaration P)} :
    item.Blank → Items L items declarations → Items L (item :: items) declarations
  | declaration {item : Text} {items : List Text} {d : Declaration P}
      {declarations : List (Declaration P)} :
    d.Written L item → Items L items declarations → Items L (item :: items) (d :: declarations)

/-- A table and the declarations that are written in it, in order. -/
def Written (L : Language P) (body : Text) (declarations : List (Declaration P)) : Prop :=
  ∃ items, body = [','].intercalate items ∧ Items L items declarations ∧ declarations ≠ []

theorem Items.free {items : List Text} {declarations : List (Declaration P)}
    (h : Items L items declarations) : ∀ item ∈ items, ',' ∉ item := by
  induction h with
  | nil => exact List.forall_mem_nil _
  | blank blank _ ih => exact List.forall_mem_cons.2 ⟨blank.not_mem rfl, ih⟩
  | declaration written _ ih => exact List.forall_mem_cons.2 ⟨written.free, ih⟩

theorem Items.ne_nil {items : List Text} {declarations : List (Declaration P)}
    (h : Items L items declarations) (declares : declarations ≠ []) : items ≠ [] := by
  rintro rfl
  cases h
  exact declares rfl

theorem Items.isName {items : List Text} {declarations : List (Declaration P)}
    (h : Items L items declarations) : ∀ d ∈ declarations, Declaration.IsName d.name := by
  induction h with
  | nil => exact List.forall_mem_nil _
  | blank _ _ ih => exact ih
  | declaration written _ ih =>
    obtain ⟨named⟩ := written
    exact List.forall_mem_cons.2 ⟨named, ih⟩

/-- The first item decides how a list of items is read. -/
theorem items_cons_iff {item : Text} {items : List Text} {declarations : List (Declaration P)}
    (free : ',' ∉ item) :
    Items L (item :: items) declarations ↔
      (Text.trim item = [] ∧ Items L items declarations) ∨
      (Text.trim item ≠ [] ∧ ∃ d more, Declaration.ofItem L (Text.trim item) = .ok d ∧
        Items L items more ∧ declarations = d :: more) := by
  constructor
  · intro h
    cases h with
    | blank blank more => exact .inl ⟨Text.trim_of_blank blank, more⟩
    | declaration written more =>
      have reads := (Declaration.ofItem_trim_eq_ok_iff free).2 written
      refine .inr ⟨?_, _, _, reads, more, rfl⟩
      intro nothing
      rw [nothing] at reads
      cases reads
  · rintro (⟨nothing, more⟩ | ⟨-, d, more, reads, rest, rfl⟩)
    · exact .blank (Text.blank_of_trim nothing) more
    · exact .declaration ((Declaration.ofItem_trim_eq_ok_iff free).1 reads) rest

/-- Items are read one by one, the blank ones left out. -/
theorem mapM_ofItem_eq_ok_iff {pieces : List Text} (free : ∀ piece ∈ pieces, ',' ∉ piece)
    {declarations : List (Declaration P)} :
    ((pieces.map Text.trim).filter (· ≠ [])).mapM (Declaration.ofItem L) = .ok declarations ↔
      Items L pieces declarations := by
  induction pieces generalizing declarations with
  | nil =>
    constructor
    · intro h
      cases h
      exact .nil
    · intro h
      cases h
      rfl
  | cons piece pieces ih =>
    rw [List.forall_mem_cons] at free
    rw [items_cons_iff free.1, List.map_cons]
    by_cases blank : Text.trim piece = []
    · simp [blank, ← ih free.2]
    · rw [List.filter_cons_of_pos (by simpa using blank), List.mapM_cons]
      rcases Declaration.ofItem L (Text.trim piece) with fault | d
      · simp [blank, bind, Except.bind]
      · simp only [blank, bind, Except.bind, pure, Except.pure, ← ih free.2]
        rcases ((pieces.map Text.trim).filter (· ≠ [])).mapM (Declaration.ofItem L) with fault | more
        · simp
        · simpa using ⟨fun same => ⟨blank, same.symm⟩, fun h => h.2.symm⟩

/-- Reading gives what is written, and reads nothing else. -/
theorem ofText_eq_ok_iff {body : Text} {declarations : List (Declaration P)} :
    ofText L body = .ok declarations ↔ Written L body declarations := by
  have reads : ofText L body = .ok declarations ↔
      (items body).mapM (Declaration.ofItem L) = .ok declarations ∧ declarations ≠ [] := by
    unfold ofText
    rcases (items body).mapM (Declaration.ofItem L) with fault | _ | ⟨d, more⟩
    · simp
    · simp
    · constructor
      · rintro ⟨⟩
        exact ⟨rfl, List.cons_ne_nil d more⟩
      · rintro ⟨⟨⟩, -⟩
        rfl
  have free : ∀ piece ∈ Text.split (· = ',') body, ',' ∉ piece :=
    fun piece h => Text.not_mem_of_mem_split h
  rw [reads]
  refine Iff.trans (and_congr_left' (mapM_ofItem_eq_ok_iff free)) ?_
  constructor
  · rintro ⟨items, declares⟩
    exact ⟨_, (Text.intercalate_split ',' body).symm, items, declares⟩
  · rintro ⟨pieces, rfl, items, declares⟩
    rw [Text.split_intercalate ',' (items.ne_nil declares) items.free]
    exact ⟨items, declares⟩

end Table

end SerialConsole
