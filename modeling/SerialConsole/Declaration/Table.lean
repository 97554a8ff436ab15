/-
Tables of commands. A table is a text of items with commas between them; an item is a name, a colon
and the path of a handler, with blanks wherever one likes around them. Blank items count for
nothing, but a table has at least one declaration. The first item that is at fault decides what is
wrong with a table.
-/
import SerialConsole.Declaration.Fault
import SerialConsole.Declaration.Language
import SerialConsole.Text.Split

namespace SerialConsole

/-- A command's name and the path of its handler. -/
structure Declaration (P : Type) where
  name : Text
  handler : P
  deriving DecidableEq, Repr

variable {P : Type}

namespace Declaration

/-- The characters of names: ASCII that shows. -/
def isGraphic (c : Char) : Bool := '!' ≤ c && c ≤ '~'

/-- The declaration that an item without blanks at its ends is. -/
def ofItem (L : Language P) (item : Text) : Except ItemFault (Declaration P) :=
  match item.dropWhile (· ≠ ':') with
  | [] => .error (.noColon item)
  | _ :: path =>
    let name := Text.trim (item.takeWhile (· ≠ ':'))
    let path := Text.trim path
    if name = [] then
      .error .noName
    else
      match name.find? (!isGraphic ·) with
      | some c => .error (.badCharacter name c)
      | none =>
        if path = [] then
          .error (.noHandler name)
        else
          match L.ofText path with
          | .error said => .error (.badHandler name path said)
          | .ok handler => .ok ⟨name, handler⟩

/-- The declaration in its plainest form. -/
def render (L : Language P) (d : Declaration P) : Text :=
  d.name ++ ": ".toList ++ L.render d.handler

end Declaration

namespace Table

/-- The items of a table, blank ones left out. -/
def items (body : Text) : List Text :=
  ((Text.split (· == ',') body).map Text.trim).filter (· ≠ [])

/-- The declarations of a table in order. -/
def ofText (L : Language P) (body : Text) : Except TableFault (List (Declaration P)) :=
  match (items body).mapM (Declaration.ofItem L) with
  | .error fault => .error (.item fault)
  | .ok [] => .error .empty
  | .ok (d :: declarations) => .ok (d :: declarations)

/-- The table in its plainest form. -/
def render (L : Language P) (declarations : List (Declaration P)) : Text :=
  List.intercalate ", ".toList (declarations.map (Declaration.render L))

end Table

end SerialConsole
