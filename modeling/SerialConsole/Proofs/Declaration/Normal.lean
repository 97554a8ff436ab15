/-
Tables in their plainest form. A path that is nothing but words holds no commas and no blanks, and
printed without blanks it is read as itself (`Language.Prints.again`). So the plain table of the
declarations that were read has the same declarations, and two plain tables are equal only if their
declarations are (`Table.render_normalizes`).
-/
import SerialConsole.Proofs.Declaration.Grammar
import SerialConsole.Proofs.Declaration.Path

namespace SerialConsole

variable {P : Type} {L : Language P}

/-! ## Paths without blanks -/

theorem Word.mem_render {w : Word} {c : Char} (hc : c ∈ w.render) :
    c = 'r' ∨ c = '#' ∨ c ∈ w.name := by
  obtain ⟨raw, name⟩ := w
  cases raw with
  | true => simpa [render] using hc
  | false => exact .inr (.inr hc)

theorem Path.mem_render {p : Path} {c : Char} (hc : c ∈ p.render) :
    c = ':' ∨ ∃ w ∈ p.words, c ∈ w.render := by
  rw [render_eq, List.mem_append, List.mem_append] at hc
  rcases hc with colons | head | tail
  · split at colons
    · exact .inl (by simpa using colons)
    · cases colons
  · exact .inr ⟨_, List.mem_cons_self .., head⟩
  · obtain ⟨w, hw, hc⟩ := List.mem_flatMap.1 tail
    rcases List.mem_cons.1 hc with colon | hc
    · exact .inl colon
    · rcases List.mem_cons.1 hc with colon | hc
      · exact .inl colon
      · exact .inr ⟨w, List.mem_cons_of_mem _ hw, hc⟩

namespace Language.Prints

variable {t : Text} {p : Path}

/-- What is printed of words is no blank and no comma. -/
theorem plain_of_mem (laws : L.Prints) (h : L.ofText t = .ok (L.plain p)) {c : Char}
    (hc : c ∈ p.render) : Text.isBlank c = false ∧ c ≠ ',' := by
  rcases Path.mem_render hc with rfl | ⟨w, hw, hc⟩
  · decide
  · rcases Word.mem_render hc with rfl | rfl | inside
    · decide
    · decide
    · exact (laws.words h w hw).2 c inside

theorem trimmed_render (laws : L.Prints) (h : L.ofText t = .ok (L.plain p)) : p.render.Trimmed := by
  refine ⟨fun nothing => ?_, fun c hc => (laws.plain_of_mem h (List.mem_of_mem_head? hc)).1,
    fun c hc => (laws.plain_of_mem h (List.mem_of_mem_getLast? hc)).1⟩
  rw [Path.render_eq, List.append_eq_nil_iff, List.append_eq_nil_iff] at nothing
  have head := (laws.words h p.head (List.mem_cons_self ..)).1
  have unwritten := nothing.2.1
  unfold Word.render at unwritten
  split at unwritten
  · cases unwritten
  · exact head unwritten

end Language.Prints

/-! ## Tables without needless blanks -/

/-- The declaration has a name, and a path of words that is read from some text. -/
structure Declaration.Sound (L : Language P) (d : Declaration P) : Prop where
  named : IsName d.name
  plain : L.IsPlain d.handler
  read : ∃ t, L.ofText t = .ok d.handler

theorem Declaration.written_render {d : Declaration P} (laws : L.Prints) (h : d.Sound L)
    {before : Text} (front : before.Blank) : d.Written L (before ++ d.render L) := by
  obtain ⟨name, handler⟩ := d
  obtain ⟨named, ⟨p, rfl⟩, t, read⟩ := h
  have free : ',' ∉ p.render := fun hc => (laws.plain_of_mem read hc).2 rfl
  have := Written.intro named (laws.trimmed_render read) free (laws.again read) front Text.blank_nil
    Text.blank_space Text.blank_nil
  simpa [render, laws.render read] using this

namespace Table

variable {declarations others : List (Declaration P)} {body other : Text}

theorem Items.sound {items : List Text} (h : Items L items declarations)
    (plain : ∀ d ∈ declarations, L.IsPlain d.handler) : ∀ d ∈ declarations, d.Sound L := by
  induction h with
  | nil => exact List.forall_mem_nil _
  | blank _ _ ih => exact ih plain
  | declaration written _ ih =>
    rw [List.forall_mem_cons] at plain ⊢
    obtain ⟨named, -, -, reads⟩ := written
    exact ⟨⟨named, plain.1, _, reads⟩, ih plain.2⟩

/-- Of the plain items all but the first start with a space. -/
theorem render_cons (d : Declaration P) (declarations : List (Declaration P)) :
    render L (d :: declarations) =
      [','].intercalate (d.render L :: declarations.map fun e => ' ' :: e.render L) := by
  unfold render
  induction declarations generalizing d with
  | nil => simp
  | cons e declarations ih =>
    rw [List.map_cons, List.map_cons, List.intercalate_cons_cons, ← List.map_cons, ih]
    cases declarations <;> simp [List.intercalate_cons_cons]

theorem written_render_cons {d : Declaration P} (laws : L.Prints)
    (h : ∀ e ∈ d :: declarations, e.Sound L) :
    Written L (render L (d :: declarations)) (d :: declarations) := by
  have later : ∀ declarations : List (Declaration P), (∀ e ∈ declarations, e.Sound L) →
      Items L (declarations.map fun e => ' ' :: e.render L) declarations := by
    intro declarations h
    induction declarations with
    | nil => exact .nil
    | cons e declarations ih =>
      rw [List.forall_mem_cons] at h
      exact .declaration (Declaration.written_render laws h.1 Text.blank_space) (ih h.2)
  rw [List.forall_mem_cons] at h
  exact ⟨_, render_cons d declarations,
    .declaration (Declaration.written_render laws h.1 Text.blank_nil) (later declarations h.2),
    List.cons_ne_nil d declarations⟩

/-- The plain table of declarations that were read, all of them with paths of words. -/
theorem ofText_render (laws : L.Prints) (h : ofText L body = .ok declarations)
    (plain : ∀ d ∈ declarations, L.IsPlain d.handler) :
    ofText L (render L declarations) = .ok declarations := by
  obtain ⟨_, -, items, declares⟩ := ofText_eq_ok_iff.1 h
  obtain ⟨d, more, rfl⟩ := List.exists_cons_of_ne_nil declares
  exact ofText_eq_ok_iff.2 (written_render_cons laws (items.sound plain))

/-- In a language that prints paths of words as what it reads: an accepted table whose paths are words,
and the plain table of its declarations say the same, and plain tables differ if and only if their
declarations do. -/
theorem render_normalizes (laws : L.Prints) (h : ofText L body = .ok declarations)
    (h' : ofText L other = .ok others) (plain : ∀ d ∈ declarations, L.IsPlain d.handler)
    (plain' : ∀ d ∈ others, L.IsPlain d.handler) :
    ofText L (render L declarations) = .ok declarations ∧
      (render L declarations = render L others ↔ declarations = others) := by
  have kept := ofText_render laws h plain
  refine ⟨kept, fun same => ?_, congrArg (render L)⟩
  rw [same, ofText_render laws h' plain', Except.ok.injEq] at kept
  exact kept.symm

/-- Colons of separators and of paths in a row, a comment, a raw word, a blank item and a command that
is there twice. -/
theorem render_normalizes_colons :
    let body := "a:::r#fn ,\u2003b! : y :: /* z */ super\n,a: ::x".toList
    let other := "a: ::r#fn,, b!:y::super,a:::x,".toList
    ∃ declarations others, ofText .words body = .ok declarations ∧ ofText .words other = .ok others ∧
      declarations = others ∧
      render .words declarations = "a: ::r#fn, b!: y::super, a: ::x".toList ∧
      ofText .words (render .words declarations) = .ok declarations ∧
      (render .words declarations = render .words others ↔ declarations = others) := by
  intro body other
  let declarations : List (Declaration Path) :=
    [⟨['a'], ⟨true, ⟨true, "fn".toList⟩, []⟩⟩,
      ⟨"b!".toList, ⟨false, ⟨false, ['y']⟩, [⟨false, "super".toList⟩]⟩⟩,
      ⟨['a'], ⟨true, ⟨false, ['x']⟩, []⟩⟩]
  have h : ofText .words body = .ok declarations := eq_ok_of_toOption (by decide +kernel)
  have h' : ofText .words other = .ok declarations := eq_ok_of_toOption (by decide +kernel)
  have plain : ∀ d ∈ declarations, Language.words.IsPlain d.handler := fun d _ => ⟨d.handler, rfl⟩
  exact ⟨declarations, declarations, h, h', rfl, by decide +kernel,
    render_normalizes Language.words_prints h h' plain plain⟩

end Table

end SerialConsole
