/-
A command: a handler under a name of at most `limit` bytes. A longer name is clipped when the
command is made, and a token is clipped alike before it is compared, so a command always answers
to the name it was made with (`answersTo_self`).
-/
import SerialConsole.Text.Basic

namespace SerialConsole

/-- A handler and the name it runs under, of at most `limit` bytes. -/
structure Command (limit : Nat) (H : Type) where
  name : Text
  handler : H
  size_name_le : Text.size name ≤ limit

namespace Command

variable {limit : Nat} {H : Type}

/-- The command with the longest beginning of the name that fits. -/
def ofName (name : Text) (handler : H) : Command limit H :=
  ⟨Text.clip name limit, handler, Text.size_clip_le name limit⟩

/-- The token and the command's name are the same as far as names go. -/
def answersTo (c : Command limit H) (token : Text) : Bool :=
  Text.clip token limit == c.name

@[simp] theorem name_ofName (name : Text) (handler : H) :
    (ofName name handler : Command limit H).name = Text.clip name limit := rfl

@[simp] theorem handler_ofName (name : Text) (handler : H) :
    (ofName name handler : Command limit H).handler = handler := rfl

theorem answersTo_iff {c : Command limit H} {token : Text} :
    c.answersTo token = true ↔ Text.clip token limit = c.name := by
  simp [answersTo]

theorem answersTo_self (name : Text) (handler : H) :
    (ofName name handler : Command limit H).answersTo name = true := by
  simp [answersTo]

end Command

end SerialConsole
