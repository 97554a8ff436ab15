/-
Tables are read in one way only. A reading of a table says of each of its items whether it is blank,
and if not, where its name and its path are and which blanks stand around them. There are no commas
in items, no colons in names and no blanks at the ends of names and paths, so a table has at most one
reading (`Table.Reading.unique`); it is accepted if and only if it has one, and then the declarations of
the reading are those that are read.
-/
import SerialConsole.Declaration.Path
import SerialConsole.Proofs.Declaration.Grammar

namespace SerialConsole

variable {P : Type} {L : Language P}

/-! ## Items and their parts -/

/-- An item of a table with its parts told apart. -/
inductive Item (P : Type)
  | blank (text : Text)
  | declaration (before name behind ahead path after : Text) (handler : P)

namespace Item

/-- The item as it is written. -/
def text : Item P → Text
  | .blank text => text
  | .declaration before name behind ahead path after _ =>
    before ++ (name ++ behind ++ ':' :: (ahead ++ path)) ++ after

/-- The declaration that the item is, if it is one. -/
def declared? : Item P → Option (Declaration P)
  | .blank _ => none
  | .declaration _ name _ _ _ _ handler => some ⟨name, handler⟩

/-- The parts of the item are what they are said to be. -/
inductive Sound (L : Language P) : Item P → Prop
  | blank {text : Text} (blank : text.Blank) : Sound L (.blank text)
  | declaration {before name behind ahead path after : Text} {handler : P}
      (front : before.Blank) (named : Declaration.IsName name) (left : behind.Blank)
      (right : ahead.Blank) (trimmed : path.Trimmed) (free : ',' ∉ path)
      (reads : L.ofText path = .ok handler) (back : after.Blank) :
      Sound L (.declaration before name behind ahead path after handler)

theorem Sound.free {item : Item P} (h : item.Sound L) : ',' ∉ item.text := by
  cases h with
  | blank blank => exact blank.not_mem rfl
  | declaration front named left right trimmed free reads back =>
    exact (Declaration.Written.intro named trimmed free reads front left right back).free

theorem written_iff {text : Text} {d : Declaration P} :
    d.Written L text ↔ ∃ item : Item P, item.Sound L ∧ item.text = text ∧ item.declared? = some d := by
  constructor
  · rintro ⟨named, trimmed, free, reads, front, left, right, back⟩
    exact ⟨.declaration _ _ _ _ _ _ _, .declaration front named left right trimmed free reads back,
      rfl, rfl⟩
  · rintro ⟨item, sound, rfl, declared⟩
    cases sound with
    | blank => cases declared
    | declaration front named left right trimmed free reads back =>
      cases declared
      exact .intro named trimmed free reads front left right back

/-- An item has its parts in one way only. -/
theorem Sound.eq_of_text {item other : Item P} (h : item.Sound L) (h' : other.Sound L)
    (same : item.text = other.text) : item = other := by
  have colon {before name behind ahead path after : Text} {handler : P} :
      ':' ∈ (Item.declaration before name behind ahead path after handler).text := by
    simp [text]
  cases h with
  | blank blank =>
    cases h' with
    | blank => exact congrArg Item.blank same
    | declaration => exact absurd (same ▸ colon) (blank.not_mem rfl)
  | declaration front named left right trimmed free reads back =>
    cases h' with
    | blank blank => exact absurd (same ▸ colon) (blank.not_mem rfl)
    | declaration front' named' left' right' trimmed' free' reads' back' =>
      obtain ⟨rfl, core, rfl⟩ := Text.blank_append_inj front
        (Declaration.trimmed_core named trimmed) back front' (Declaration.trimmed_core named' trimmed')
        back' same
      -- the first colon is the one behind the name
      have uncut {name behind : Text} (named : Declaration.IsName name) (left : behind.Blank) :
          ':' ∉ name ++ behind := by
        rw [List.mem_append, not_or]
        exact ⟨fun h => (named.plain _ h).2.2 rfl, left.not_mem rfl⟩
      have cut := congrArg (·.splitOn ':') core
      simp only [List.splitOn_append_cons_self_of_not_mem (uncut named left),
        List.splitOn_append_cons_self_of_not_mem (uncut named' left'), List.cons.injEq] at cut
      have name := Text.blank_append_inj Text.blank_nil named.trimmed left Text.blank_nil
        named'.trimmed left' cut.1
      rw [cut.1] at core
      have path := Text.blank_append_inj right trimmed Text.blank_nil right' trimmed' Text.blank_nil
        (by simpa using core)
      obtain ⟨-, rfl, rfl⟩ := name
      obtain ⟨rfl, rfl, -⟩ := path
      rw [reads, Except.ok.injEq] at reads'
      rw [reads']

theorem eq_of_map_text {items others : List (Item P)} (sound : ∀ item ∈ items, item.Sound L)
    (sound' : ∀ item ∈ others, item.Sound L) (same : items.map text = others.map text) :
    items = others := by
  induction items generalizing others with
  | nil => exact (List.map_eq_nil_iff.1 same.symm).symm
  | cons item items ih =>
    cases others with
    | nil => cases same
    | cons other others =>
      rw [List.forall_mem_cons] at sound sound'
      rw [List.map_cons, List.map_cons, List.cons.injEq] at same
      rw [sound.1.eq_of_text sound'.1 same.1, ih sound.2 sound'.2 same.2]

end Item

/-! ## Tables -/

namespace Table

/-- The items that a table is read as: with commas between them they are the table, and one of them
at least is a declaration. -/
structure Reading (L : Language P) (body : Text) (items : List (Item P)) : Prop where
  joined : body = [','].intercalate (items.map Item.text)
  sound : ∀ item ∈ items, item.Sound L
  declares : items.filterMap Item.declared? ≠ []

theorem items_iff {texts : List Text} {declarations : List (Declaration P)} :
    Items L texts declarations ↔
      ∃ items : List (Item P), (∀ item ∈ items, item.Sound L) ∧ texts = items.map Item.text ∧
        declarations = items.filterMap Item.declared? := by
  constructor
  · intro h
    induction h with
    | nil => exact ⟨[], List.forall_mem_nil _, rfl, rfl⟩
    | @blank text _ _ blank _ ih =>
      obtain ⟨items, sound, rfl, rfl⟩ := ih
      exact ⟨.blank text :: items, List.forall_mem_cons.2 ⟨.blank blank, sound⟩, rfl, rfl⟩
    | declaration written _ ih =>
      obtain ⟨items, sound, rfl, rfl⟩ := ih
      obtain ⟨item, here, rfl, declared⟩ := Item.written_iff.1 written
      exact ⟨item :: items, List.forall_mem_cons.2 ⟨here, sound⟩, rfl,
        (List.filterMap_cons_some declared).symm⟩
  · rintro ⟨items, sound, rfl, rfl⟩
    induction items with
    | nil => exact .nil
    | cons item items ih =>
      rw [List.forall_mem_cons] at sound
      cases hd : item.declared? with
      | none =>
        rw [List.filterMap_cons_none hd]
        cases sound.1 with
        | blank blank => exact .blank blank (ih sound.2)
        | declaration => cases hd
      | some d =>
        rw [List.filterMap_cons_some hd]
        exact .declaration (Item.written_iff.2 ⟨item, sound.1, rfl, hd⟩) (ih sound.2)

theorem written_iff_reading {body : Text} {declarations : List (Declaration P)} :
    Written L body declarations ↔
      ∃ items, Reading L body items ∧ declarations = items.filterMap Item.declared? := by
  constructor
  · rintro ⟨texts, joined, written, declares⟩
    obtain ⟨items, sound, rfl, rfl⟩ := items_iff.1 written
    exact ⟨items, ⟨joined, sound, declares⟩, rfl⟩
  · rintro ⟨items, reading, rfl⟩
    exact ⟨_, reading.joined, items_iff.2 ⟨items, reading.sound, rfl, rfl⟩, reading.declares⟩

/-- The items of a table are what stands between its commas. -/
theorem Reading.split_eq {body : Text} {items : List (Item P)} (h : Reading L body items) :
    body.splitOn ',' = items.map Item.text := by
  have nonempty : items.map Item.text ≠ [] := by
    intro nothing
    refine h.declares ?_
    rw [List.map_eq_nil_iff.1 nothing]
    rfl
  rw [h.joined]
  refine List.splitOn_intercalate ',' (fun text ht => ?_) nonempty
  obtain ⟨item, hi, rfl⟩ := List.mem_map.1 ht
  exact (h.sound item hi).free

theorem Reading.unique {body : Text} {items others : List (Item P)} (h : Reading L body items)
    (h' : Reading L body others) : items = others :=
  Item.eq_of_map_text h.sound h'.sound (h.split_eq.symm.trans h'.split_eq)

/-- In any language, a text is accepted as a table if and only if it can be read as one, by items that
are blank or are declarations, one at least; it can be so in one way only, and what is read are the
declarations in their order, each as often as it is there. -/
theorem accepts_iff_reading (L : Language P) (body : Text) (declarations : List (Declaration P)) :
    (ofText L body = .ok declarations ↔
        ∃ items, Reading L body items ∧ declarations = items.filterMap Item.declared?) ∧
      ∀ items others, Reading L body items → Reading L body others → items = others :=
  ⟨ofText_eq_ok_iff.trans written_iff_reading, fun _ _ => Reading.unique⟩

/-- The first colon of an item ends its name, whatever the path starts with; items may be blank, and
may be there twice. -/
example :
    (ofText .words "a:::x ,\u2003,\tb! : y :: z\n,a:::x".toList).toOption =
      some [⟨['a'], ⟨true, ⟨false, ['x']⟩, []⟩⟩, ⟨"b!".toList, ⟨false, ⟨false, ['y']⟩, [⟨false, ['z']⟩]⟩⟩,
        ⟨['a'], ⟨true, ⟨false, ['x']⟩, []⟩⟩] := by
  decide +kernel

end Table

end SerialConsole
