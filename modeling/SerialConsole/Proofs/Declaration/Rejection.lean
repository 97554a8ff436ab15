/-
Why tables are rejected. An item that is neither blank nor a declaration fails one check first
(`Declaration.Faulty`), and the first such item of a table decides what is wrong with it
(`Table.ofText_eq_error_iff`). So nothing that is written before or behind that item counts, nor do
blanks around items, names and paths (`Table.ofText_respaced`); a table is called empty only if all its
items are blank.
-/
import SerialConsole.Declaration.Module
import SerialConsole.Proofs.Declaration.Grammar

namespace SerialConsole

variable {P : Type} {L : Language P}

/-! ## What is wrong with an item -/

/-- The first check that a name and a path do not pass. -/
inductive Declaration.Fails (L : Language P) : Text → Text → ItemFault → Prop
  | noName {path : Text} : Fails L [] path .noName
  /-- The character `c` is the first of the name that does not show. -/
  | badCharacter {start more path : Text} {c : Char} (shown : ∀ x ∈ start, isGraphic x = true)
    (unshown : isGraphic c = false) :
    Fails L (start ++ c :: more) path (.badCharacter (start ++ c :: more) c)
  | noHandler {name : Text} (named : name ≠ []) (shown : ∀ x ∈ name, isGraphic x = true) :
    Fails L name [] (.noHandler name)
  | badHandler {name path said : Text} (named : name ≠ []) (shown : ∀ x ∈ name, isGraphic x = true)
    (given : path ≠ []) (unread : L.ofText path = .error said) :
    Fails L name path (.badHandler name path said)

/-- What is wrong with an item that is neither blank nor a declaration. Its name goes up to the first
colon, and blanks around the item, the name and the path do not count. -/
inductive Declaration.Faulty (L : Language P) : Text → ItemFault → Prop
  | noColon {before item after : Text} (front : before.Blank) (trimmed : item.Trimmed)
    (back : after.Blank) (uncut : ':' ∉ item) : Faulty L (before ++ item ++ after) (.noColon item)
  | parts {before name behind ahead path after : Text} {fault : ItemFault} (front : before.Blank)
    (name_trim : Text.trim name = name) (uncut : ':' ∉ name) (left : behind.Blank)
    (right : ahead.Blank) (path_trim : Text.trim path = path) (back : after.Blank)
    (fails : Fails L name path fault) :
    Faulty L (before ++ name ++ behind ++ ':' :: (ahead ++ path ++ after)) fault

namespace Declaration

variable {item left name path : Text} {fault : ItemFault}

/-- The declaration of a name and a path that have no blanks at their ends. -/
def ofParts (L : Language P) (name path : Text) : Except ItemFault (Declaration P) :=
  if name = [] then
    .error .noName
  else
    match name.find? (!isGraphic ·) with
    | some c => .error (.badCharacter name c)
    | none =>
      if path = [] then
        .error (.noHandler name)
      else
        match L.ofText path with
        | .error said => .error (.badHandler name path said)
        | .ok handler => .ok ⟨name, handler⟩

theorem forall_ne_colon (uncut : ':' ∉ item) : ∀ c ∈ item, decide (c ≠ ':') = true := by
  intro c hc
  have other : c ≠ ':' := fun same => uncut (same ▸ hc)
  exact decide_eq_true other

theorem ofItem_of_not_mem (uncut : ':' ∉ item) : ofItem L item = .error (.noColon item) := by
  have nothing : item.dropWhile (· ≠ ':') = [] := List.dropWhile_eq_nil_iff.2 (forall_ne_colon uncut)
  rw [ofItem, nothing]

theorem ofItem_append_colon (uncut : ':' ∉ left) (right : Text) :
    ofItem L (left ++ ':' :: right) = ofParts L (Text.trim left) (Text.trim right) := by
  have uncut := forall_ne_colon uncut
  have before : (left ++ ':' :: right).takeWhile (· ≠ ':') = left := by
    rw [List.takeWhile_append_of_pos uncut]
    simp
  have after : (left ++ ':' :: right).dropWhile (· ≠ ':') = ':' :: right := by
    rw [List.dropWhile_append_of_pos uncut]
    simp
  rw [ofItem, before, after]
  rfl

/-- Only the parts of an item count, without the blanks around them. -/
theorem ofItem_trim_append_colon (uncut : ':' ∉ left) (right : Text) :
    ofItem L (Text.trim (left ++ ':' :: right)) = ofParts L (Text.trim left) (Text.trim right) := by
  have uncut' : ':' ∉ Text.trimLeft left := fun h => uncut ((List.dropWhile_sublist _).mem h)
  rw [Text.trim_append_cons rfl, ofItem_append_colon uncut', Text.trim_trimLeft,
    Text.trim_trimRight]

theorem trim_append_colon_ne_nil (left right : Text) : Text.trim (left ++ ':' :: right) ≠ [] := by
  rw [Text.trim_append_cons rfl]
  simp

theorem ofParts_eq_error_iff : ofParts L name path = .error fault ↔ Fails L name path fault := by
  constructor
  · intro h
    unfold ofParts at h
    split at h
    · next unnamed =>
      cases h
      exact unnamed ▸ .noName
    next named =>
    split at h
    · next c found =>
      cases h
      obtain ⟨unshown, start, more, rfl, shown⟩ := List.find?_eq_some_iff_append.1 found
      exact .badCharacter (by simpa using shown) (by simpa using unshown)
    next shown =>
    have shown : ∀ x ∈ name, isGraphic x = true := by simpa using shown
    split at h
    · next missing =>
      cases h
      exact missing ▸ .noHandler named shown
    next given =>
    split at h
    · next unread =>
      cases h
      exact .badHandler named shown given unread
    · cases h
  · have all (shown : ∀ x ∈ name, isGraphic x = true) : name.find? (!isGraphic ·) = none := by
      simpa using shown
    intro h
    cases h with
    | noName => rfl
    | @badCharacter start more _ c shown unshown =>
      have found : (start ++ c :: more).find? (!isGraphic ·) = some c :=
        List.find?_eq_some_iff_append.2
          ⟨by simpa using unshown, start, more, rfl, by simpa using shown⟩
      simp [ofParts, found]
    | noHandler named shown => simp [ofParts, named, all shown]
    | badHandler named shown given unread => simp [ofParts, named, all shown, given, unread]

/-- An item that is not blank is faulty as its checks say. -/
theorem ofItem_trim_eq_error_iff :
    Text.trim item ≠ [] ∧ ofItem L (Text.trim item) = .error fault ↔ Faulty L item fault := by
  constructor
  · rintro ⟨nonempty, h⟩
    by_cases colon : ':' ∈ item
    · obtain ⟨left, right, rfl, uncut⟩ := List.eq_append_cons_of_mem colon
      rw [ofItem_trim_append_colon uncut, ofParts_eq_error_iff] at h
      obtain ⟨before, behind, front, back, left_eq⟩ := Text.exists_blank_trim left
      obtain ⟨ahead, after, front', back', right_eq⟩ := Text.exists_blank_trim right
      have uncut' : ':' ∉ Text.trim left := by
        rwa [left_eq, Text.mem_blanks_iff front back rfl] at uncut
      rw [left_eq, right_eq]
      exact .parts front (Text.trim_trim left) uncut' back front' (Text.trim_trim right) back' h
    · obtain ⟨before, after, front, back, item_eq⟩ := Text.exists_blank_trim item
      have uncut : ':' ∉ Text.trim item := by
        rwa [item_eq, Text.mem_blanks_iff front back rfl] at colon
      rw [ofItem_of_not_mem uncut] at h
      cases h
      rw [item_eq, Text.trim_blanks front _ back, Text.trim_trim]
      exact .noColon front (Text.trimmed_trim nonempty) back uncut
  · intro h
    cases h with
    | noColon front trimmed back uncut =>
      rw [Text.trim_append front trimmed back, ofItem_of_not_mem uncut]
      exact ⟨trimmed.nonempty, rfl⟩
    | @parts before name behind ahead path after _ front name_trim uncut left right path_trim back
        fails =>
      have uncut : ':' ∉ before ++ name ++ behind := by
        rwa [Text.mem_blanks_iff front left rfl]
      refine ⟨trim_append_colon_ne_nil _ _, ?_⟩
      rw [ofItem_trim_append_colon uncut, Text.trim_blanks front name left,
        Text.trim_blanks right path back, name_trim, path_trim]
      exact ofParts_eq_error_iff.2 fails

/-- Two items that differ in nothing but blanks around them, their names and their paths. -/
inductive Respaced : Text → Text → Prop
  | whole {before before' item after after' : Text} (front : before.Blank) (front' : before'.Blank)
    (back : after.Blank) (back' : after'.Blank) :
    Respaced (before ++ item ++ after) (before' ++ item ++ after')
  | parts {before before' name behind behind' ahead ahead' path after after' : Text}
    (uncut : ':' ∉ name) (front : before.Blank) (front' : before'.Blank) (left : behind.Blank)
    (left' : behind'.Blank) (right : ahead.Blank) (right' : ahead'.Blank) (back : after.Blank)
    (back' : after'.Blank) :
    Respaced (before ++ name ++ behind ++ ':' :: (ahead ++ path ++ after))
      (before' ++ name ++ behind' ++ ':' :: (ahead' ++ path ++ after'))

variable {other : Text}

theorem Respaced.free (h : Respaced item other) (free : ',' ∉ item) : ',' ∉ other := by
  have shows : Text.isBlank ',' = false := rfl
  cases h with
  | whole front front' back back' =>
    rw [Text.mem_blanks_iff front back shows] at free
    rwa [Text.mem_blanks_iff front' back' shows]
  | parts _ front front' left left' right right' back back' =>
    rw [List.mem_append, List.mem_cons, Text.mem_blanks_iff front left shows,
      Text.mem_blanks_iff right back shows] at free
    rwa [List.mem_append, List.mem_cons, Text.mem_blanks_iff front' left' shows,
      Text.mem_blanks_iff right' back' shows]

/-- Items that differ in blanks only are read alike. -/
theorem Respaced.ofItem_eq (h : Respaced item other) :
    (Text.trim item = [] ↔ Text.trim other = []) ∧
      ofItem L (Text.trim item) = ofItem L (Text.trim other) := by
  cases h with
  | @whole before before' core after after' front front' back back' =>
    rw [Text.trim_blanks front core back, Text.trim_blanks front' core back']
    exact ⟨Iff.rfl, rfl⟩
  | @parts before before' name behind behind' ahead ahead' path after after' uncut front front' left
      left' right right' back back' =>
    have uncut_around {before behind : Text} (front : before.Blank) (left : behind.Blank) :
        ':' ∉ before ++ name ++ behind := by
      rwa [Text.mem_blanks_iff front left rfl]
    refine ⟨iff_of_false (trim_append_colon_ne_nil _ _) (trim_append_colon_ne_nil _ _), ?_⟩
    rw [ofItem_trim_append_colon (uncut_around front left),
      ofItem_trim_append_colon (uncut_around front' left'), Text.trim_blanks front name left,
      Text.trim_blanks front' name left', Text.trim_blanks right path back,
      Text.trim_blanks right' path back']

end Declaration

/-! ## What is wrong with a table -/

namespace Table

variable {body item : Text} {pieces others : List Text} {fault : ItemFault}

/-- Of items in a row the first that is neither blank nor a declaration, and what is wrong with it. -/
inductive Blames (L : Language P) : List Text → Text → ItemFault → Prop
  | here {item : Text} {items : List Text} {fault : ItemFault} :
    Declaration.Faulty L item fault → Blames L (item :: items) item fault
  | blank {first item : Text} {items : List Text} {fault : ItemFault} :
    first.Blank → Blames L items item fault → Blames L (first :: items) item fault
  | declaration {first item : Text} {items : List Text} {d : Declaration P} {fault : ItemFault} :
    d.Written L first → Blames L items item fault → Blames L (first :: items) item fault

theorem Blames.faulty (h : Blames L pieces item fault) : Declaration.Faulty L item fault := by
  induction h with
  | here faulty => exact faulty
  | blank _ _ ih => exact ih
  | declaration _ _ ih => exact ih

theorem Blames.mem (h : Blames L pieces item fault) : item ∈ pieces := by
  induction h with
  | here => exact List.mem_cons_self ..
  | blank _ _ ih => exact List.mem_cons_of_mem _ ih
  | declaration _ _ ih => exact List.mem_cons_of_mem _ ih

/-- Other items before and behind leave the blame where it is. -/
theorem Items.blames {before : List Text} {declarations : List (Declaration P)}
    (h : Items L before declarations) (faulty : Declaration.Faulty L item fault)
    (behind : List Text) : Blames L (before ++ item :: behind) item fault := by
  induction h with
  | nil => exact .here faulty
  | blank blank _ ih => exact .blank blank ih
  | declaration written _ ih => exact .declaration written ih

/-- The first item decides how a list of items fails. -/
theorem exists_blames_cons_iff {first : Text} (free : ',' ∉ first) :
    (∃ item, Blames L (first :: pieces) item fault) ↔
      (Text.trim first = [] ∧ ∃ item, Blames L pieces item fault) ∨
      (Text.trim first ≠ [] ∧ (Declaration.ofItem L (Text.trim first) = .error fault ∨
        (∃ d, Declaration.ofItem L (Text.trim first) = .ok d) ∧
          ∃ item, Blames L pieces item fault)) := by
  constructor
  · rintro ⟨item, h⟩
    cases h with
    | here faulty =>
      obtain ⟨nonempty, fails⟩ := Declaration.ofItem_trim_eq_error_iff.2 faulty
      exact .inr ⟨nonempty, .inl fails⟩
    | blank blank later => exact .inl ⟨Text.trim_of_blank blank, item, later⟩
    | declaration written later =>
      have reads := (Declaration.ofItem_trim_eq_ok_iff free).2 written
      refine .inr ⟨fun nothing => ?_, .inr ⟨⟨_, reads⟩, item, later⟩⟩
      rw [nothing] at reads
      cases reads
  · rintro (⟨nothing, item, later⟩ | ⟨nonempty, fails | ⟨⟨d, reads⟩, item, later⟩⟩)
    · exact ⟨item, .blank (Text.blank_of_trim nothing) later⟩
    · exact ⟨first, .here (Declaration.ofItem_trim_eq_error_iff.1 ⟨nonempty, fails⟩)⟩
    · exact ⟨item, .declaration ((Declaration.ofItem_trim_eq_ok_iff free).1 reads) later⟩

theorem mapM_ofItem_eq_error_iff (free : ∀ piece ∈ pieces, ',' ∉ piece) :
    ((pieces.map Text.trim).filter (· ≠ [])).mapM (Declaration.ofItem L) = .error fault ↔
      ∃ item, Blames L pieces item fault := by
  induction pieces with
  | nil =>
    constructor
    · intro h
      cases h
    · rintro ⟨item, h⟩
      cases h
  | cons first pieces ih =>
    rw [List.forall_mem_cons] at free
    rw [exists_blames_cons_iff free.1, ← ih free.2, List.map_cons]
    -- A blank item is passed over before any is read.
    by_cases nothing : Text.trim first = []
    · simp [nothing]
    · rw [List.filter_cons_of_pos (by simpa using nothing), List.mapM_cons]
      rcases Declaration.ofItem L (Text.trim first) with why | d
      · simp [nothing, bind, Except.bind]
      · rcases ((pieces.map Text.trim).filter (· ≠ [])).mapM (Declaration.ofItem L) with why | more
        · simp [nothing, bind, Except.bind]
        · simp [nothing, bind, Except.bind, pure, Except.pure]

theorem split_eq_splitOn (body : Text) : Text.split (· == ',') body = body.splitOn ',' :=
  Text.split_eq_splitOnP _ body

/-- A table is rejected for its first faulty item. -/
theorem ofText_eq_error_iff :
    ofText L body = .error (.item fault) ↔ ∃ item, Blames L (body.splitOn ',') item fault := by
  rw [← mapM_ofItem_eq_error_iff fun piece h => not_mem_of_mem_splitOn h, ← split_eq_splitOn]
  unfold ofText items
  rcases (List.filter _ _).mapM (Declaration.ofItem L) with why | _ | ⟨d, more⟩ <;> simp

theorem items_nil_iff : Items L pieces [] ↔ ∀ piece ∈ pieces, Text.Blank piece := by
  constructor
  · intro h
    generalize nothing : ([] : List (Declaration P)) = declarations at h
    induction h with
    | nil => exact List.forall_mem_nil _
    | blank blank _ ih => exact List.forall_mem_cons.2 ⟨blank, ih nothing⟩
    | declaration => cases nothing
  · intro h
    induction pieces with
    | nil => exact .nil
    | cons piece pieces ih =>
      rw [List.forall_mem_cons] at h
      exact .blank h.1 (ih h.2)

/-- A table is empty if and only if it has nothing but blank items. -/
theorem ofText_eq_empty_iff :
    ofText L body = .error .empty ↔ ∀ item ∈ body.splitOn ',', Text.Blank item := by
  rw [← items_nil_iff (L := L), ← mapM_ofItem_eq_ok_iff fun piece h => not_mem_of_mem_splitOn h,
    ← split_eq_splitOn]
  unfold ofText items
  rcases (List.filter _ _).mapM (Declaration.ofItem L) with why | _ | ⟨d, more⟩ <;> simp

/-- No fault of an item is worded as that of an empty table. -/
theorem message_ne_empty (fault : ItemFault) : fault.message ≠ TableFault.empty.message := by
  -- Each wording parts from that of the empty table within nine characters.
  have differs {start rest : Text} (long : 9 ≤ start.length)
      (other : start.take 9 ≠ TableFault.empty.message.take 9) :
      start ++ rest ≠ TableFault.empty.message := by
    intro same
    rw [← same, List.take_append_of_le_length long] at other
    exact other rfl
  cases fault with
  | noColon item => exact differs (by decide) (by decide)
  | noName => decide
  | badCharacter name c =>
    show "command name ".toList ++ Text.marked name ++ _ ++ _ ≠ _
    rw [List.append_assoc, List.append_assoc]
    exact differs (by decide) (by decide)
  | noHandler name =>
    show "command ".toList ++ ("`".toList ++ name ++ "`".toList) ++ _ ≠ _
    rw [List.append_assoc, List.append_assoc, List.append_assoc, ← List.append_assoc]
    exact differs (by decide) (by decide)
  | badHandler name path said =>
    show "invalid handler path ".toList ++ Text.marked path ++ _ ++ _ ++ _ ++ _ ≠ _
    rw [List.append_assoc, List.append_assoc, List.append_assoc, List.append_assoc]
    exact differs (by decide) (by decide)

/-! ## What does not count -/

/-- Items that differ from others in blanks around items, names and paths, and in blank items. -/
inductive Respaced : List Text → List Text → Prop
  | nil : Respaced [] []
  | item {item other : Text} {items others : List Text} :
    Declaration.Respaced item other → Respaced items others → Respaced (item :: items) (other :: others)
  | inserted {blank : Text} {items others : List Text} :
    blank.Blank → Respaced items others → Respaced items (blank :: others)
  | leftOut {blank : Text} {items others : List Text} :
    blank.Blank → Respaced items others → Respaced (blank :: items) others

theorem Respaced.free (h : Respaced pieces others) (free : ∀ piece ∈ pieces, ',' ∉ piece) :
    ∀ other ∈ others, ',' ∉ other := by
  induction h with
  | nil => exact free
  | item same _ ih =>
    rw [List.forall_mem_cons] at free
    exact List.forall_mem_cons.2 ⟨same.free free.1, ih free.2⟩
  | inserted blank _ ih => exact List.forall_mem_cons.2 ⟨blank.not_mem rfl, ih free⟩
  | leftOut _ _ ih =>
    rw [List.forall_mem_cons] at free
    exact ih free.2

theorem Respaced.mapM_ofItem_eq (h : Respaced pieces others) :
    ((pieces.map Text.trim).filter (· ≠ [])).mapM (Declaration.ofItem L) =
      ((others.map Text.trim).filter (· ≠ [])).mapM (Declaration.ofItem L) := by
  induction h with
  | nil => rfl
  | @item piece other _ _ same _ ih =>
    obtain ⟨blanks, reads⟩ := same.ofItem_eq
    by_cases nothing : Text.trim piece = []
    · rw [List.map_cons, List.map_cons, List.filter_cons_of_neg (by simpa using nothing),
        List.filter_cons_of_neg (by simpa using blanks.1 nothing), ih]
    · rw [List.map_cons, List.map_cons, List.filter_cons_of_pos (by simpa using nothing),
        List.filter_cons_of_pos (by simpa using mt blanks.2 nothing), List.mapM_cons,
        List.mapM_cons, reads, ih]
  | inserted blank _ ih =>
    rw [ih, List.map_cons, List.filter_cons_of_neg (by simpa using Text.trim_of_blank blank)]
  | leftOut blank _ ih =>
    rw [← ih, List.map_cons, List.filter_cons_of_neg (by simpa using Text.trim_of_blank blank)]

theorem items_intercalate (free : ∀ piece ∈ pieces, ',' ∉ piece) :
    items ([','].intercalate pieces) = (pieces.map Text.trim).filter (· ≠ []) := by
  cases pieces with
  | nil => rfl
  | cons piece pieces =>
    rw [items, split_eq_splitOn, List.splitOn_intercalate ',' free (List.cons_ne_nil piece pieces)]

/-- Blanks around items, names and paths, and blank items, make no difference. -/
theorem ofText_respaced (h : Respaced (body.splitOn ',') others) :
    ofText L ([','].intercalate others) = ofText L body := by
  have free : ∀ piece ∈ body.splitOn ',', ',' ∉ piece := fun piece h => not_mem_of_mem_splitOn h
  have same : (items body).mapM (Declaration.ofItem L) =
      (items ([','].intercalate others)).mapM (Declaration.ofItem L) := by
    rw [items, split_eq_splitOn, items_intercalate (h.free free)]
    exact h.mapM_ofItem_eq
  unfold ofText
  rw [same]

/-- A table is rejected for the same reason whatever is before the item that is to blame, as long as it
is no fault, and whatever follows a comma behind it. -/
theorem ofText_eq_error_of_faulty {before : List Text} {declarations : List (Declaration P)}
    (sound : Items L before declarations) (free : ',' ∉ item)
    (faulty : Declaration.Faulty L item fault) {behind : Text} (cut : ∀ c ∈ behind.head?, c = ',') :
    ofText L ([','].intercalate (before ++ [item]) ++ behind) = .error (.item fault) := by
  have pieces : ([','].intercalate (before ++ [item])).splitOn ',' = before ++ [item] := by
    refine List.splitOn_intercalate ',' (fun piece hp => ?_) (by simp)
    rcases List.mem_append.1 hp with earlier | here
    · exact sound.free piece earlier
    · exact List.mem_singleton.1 here ▸ free
  refine ofText_eq_error_iff.2 ⟨item, ?_⟩
  cases behind with
  | nil =>
    rw [List.append_nil, pieces]
    exact sound.blames faulty []
  | cons c behind =>
    obtain rfl := cut c rfl
    have parts : ([','].intercalate (before ++ [item]) ++ ',' :: behind).splitOn ',' =
        before ++ item :: behind.splitOn ',' := by
      rw [List.splitOn_append_cons_self, pieces, List.append_assoc]
      rfl
    rw [parts]
    exact sound.blames faulty _

/-- Where tokens have the form of a module, the table alone decides: it is rejected as a table is, or
all its items are in the module. -/
theorem ofTokens_of_header {tokens : List Token} {header : Header P}
    (formed : Header.ofTokens L tokens = .ok header) :
    (∀ fault, ofText L header.body = .error fault →
      CommandModule.ofTokens L tokens = .error (.table fault)) ∧
      ∀ m, CommandModule.ofTokens L tokens = .ok m →
        Items L (header.body.splitOn ',') m.declarations := by
  refine ⟨fun fault refused => ?_, fun m accepted => ?_⟩
  · exact CommandModule.ofTokens_eq_error_iff.2 (.inr ⟨fault, header, rfl, formed, refused⟩)
  · obtain ⟨other, declarations, parsed, read, rfl⟩ := CommandModule.ofTokens_eq_ok_iff.1 accepted
    obtain rfl : header = other := Except.ok.inj (formed.symm.trans parsed)
    obtain ⟨pieces, joined, items, declares⟩ := ofText_eq_ok_iff.1 read
    rw [joined, List.splitOn_intercalate ',' items.free (items.ne_nil declares)]
    exact items

/-- In any language, whatever it says of texts that are no paths: a table that is not all blank is
rejected for its first faulty item and the first check which that fails; what is before and behind the
item does not count, nor do blanks and blank items. A table is said to be empty if and only if it is all
blank. A rejected table makes no module, and a module has all that its table holds. -/
theorem first_fault_decides (L : Language P) (body : Text) :
    (∀ fault, ofText L body = .error fault → (∃ item ∈ body.splitOn ',', ¬ Text.Blank item) →
      ∃ item why, Blames L (body.splitOn ',') item why ∧ fault = .item why) ∧
    (∀ item why, Blames L (body.splitOn ',') item why →
      ofText L body = .error (.item why) ∧
      ∀ before declarations behind, Items L before declarations → (∀ c ∈ behind.head?, c = ',') →
        ofText L ([','].intercalate (before ++ [item]) ++ behind) = .error (.item why)) ∧
    (∀ others, Respaced (body.splitOn ',') others →
      ofText L ([','].intercalate others) = ofText L body) ∧
    ((∃ fault, ofText L body = .error fault ∧ fault.message = "command table is empty".toList) ↔
      ∀ item ∈ body.splitOn ',', Text.Blank item) ∧
    ∀ tokens header, Header.ofTokens L tokens = .ok header → header.body = body →
      (∀ fault, ofText L body = .error fault →
        CommandModule.ofTokens L tokens = .error (.table fault)) ∧
      ∀ m, CommandModule.ofTokens L tokens = .ok m → Items L (body.splitOn ',') m.declarations := by
  refine ⟨?_, ?_, fun _ => ofText_respaced, ?_, ?_⟩
  · rintro (why | _) rejected ⟨piece, there, shows⟩
    · obtain ⟨item, blames⟩ := ofText_eq_error_iff.1 rejected
      exact ⟨item, why, blames, rfl⟩
    · exact absurd (ofText_eq_empty_iff.1 rejected piece there) shows
  · intro item why blames
    refine ⟨ofText_eq_error_iff.2 ⟨item, blames⟩, fun before declarations behind sound cut => ?_⟩
    exact ofText_eq_error_of_faulty sound (not_mem_of_mem_splitOn blames.mem) blames.faulty cut
  · rw [← ofText_eq_empty_iff]
    constructor
    · rintro ⟨why | _, rejected, worded⟩
      · exact absurd worded (message_ne_empty why)
      · exact rejected
    · intro rejected
      exact ⟨.empty, rejected, rfl⟩
  · rintro tokens header formed rfl
    exact ofTokens_of_header formed

/-- A name with a blank inside counts before a handler that is missing, and before all that follows. -/
example : ofText .words "\u2003a b :,:".toList = .error (.item (.badCharacter "a b".toList ' ')) := rfl

end Table

end SerialConsole
