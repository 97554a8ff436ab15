/-
What operations amount to. The operations alone say what a terminal is set up with after them
(`Setup.after`), which bytes they read and whether echo is on meanwhile (`Operation.strokes`), and
which bytes they leave (`Operation.leftover`); capacity, names and handlers have no part in it. A
listener after a history is made of just these (`Listener.state_performAll`), so the terminal after
it is known too.
-/
import SerialConsole.Proofs.Console.Refinement

namespace SerialConsole

variable {H : Type}

/-! ## What a terminal is set up with -/

/-- What a terminal is set up with. -/
structure Setup (H : Type) where
  /-- Names in full, with their handlers, in the order they were added. -/
  commands : List (Text × H) := []
  fallback : Option H := none
  afterLine : Option H := none
  echo : Bool := false
  deriving DecidableEq

namespace Setup

/-- An operation changes the setup, or leaves it alone. -/
def after (s : Setup H) : Operation H → Setup H
  | .register name handler => { s with commands := s.commands ++ [(name, handler)] }
  | .setFallback handler => { s with fallback := some handler }
  | .setAfterLine handler => { s with afterLine := some handler }
  | .setEcho on => { s with echo := on }
  | .feed _ | .poll _ | .clear => s

/-- The setup that a history leads to, if at first there is nothing but echo, on or off. -/
def ofHistory (echo : Bool) (ops : List (Operation H)) : Setup H := ops.foldl after { echo }

/-- The operations that lead to the setup and do nothing else. -/
def operations (s : Setup H) : List (Operation H) :=
  s.commands.map (fun c => .register c.1 c.2) ++ (s.fallback.map .setFallback).toList ++
    (s.afterLine.map .setAfterLine).toList ++ [.setEcho s.echo]

theorem foldl_register (s : Setup H) (commands : List (Text × H)) :
    (commands.map fun c => .register c.1 c.2).foldl after s =
      { s with commands := s.commands ++ commands } := by
  induction commands generalizing s with
  | nil => simp
  | cons c commands ih =>
    rw [List.map_cons, List.foldl_cons, ih]
    simp [after]

theorem ofHistory_operations (echo : Bool) (s : Setup H) : ofHistory echo s.operations = s := by
  obtain ⟨commands, fallback, afterLine, on⟩ := s
  unfold ofHistory operations
  rw [List.foldl_append, List.foldl_append, List.foldl_append, foldl_register]
  cases fallback <;> cases afterLine <;> rfl

end Setup

/-! ## What happens to the line -/

/-- What happens to a line: a byte is read, while echo is on or off, or the line is forgotten. -/
inductive Stroke
  | byte (b : UInt8) (echo : Bool)
  | clear
  deriving DecidableEq, Repr

/-- The strokes of operations, if echo is on or off before them and these bytes wait. -/
def Operation.strokes (echo : Bool) (unread : List UInt8) : List (Operation H) → List Stroke
  | [] => []
  | .setEcho on :: ops => strokes on unread ops
  | .feed bytes :: ops => strokes echo (unread ++ bytes) ops
  | .poll count :: ops =>
    (unread.take (count.getD unread.length)).map (.byte · echo) ++
      strokes echo (unread.drop (count.getD unread.length)) ops
  | .clear :: ops => .clear :: strokes echo unread ops
  | .register .. :: ops | .setFallback _ :: ops | .setAfterLine _ :: ops => strokes echo unread ops

/-- The bytes that still wait after operations. -/
def Operation.leftover (unread : List UInt8) : List (Operation H) → List UInt8
  | [] => unread
  | .feed bytes :: ops => leftover (unread ++ bytes) ops
  | .poll count :: ops => leftover (unread.drop (count.getD unread.length)) ops
  | .register .. :: ops | .setFallback _ :: ops | .setAfterLine _ :: ops | .setEcho _ :: ops
  | .clear :: ops => leftover unread ops

/-- All bytes since the last newline or clearing, those before the strokes with them. -/
def Stroke.heard (newline : UInt8) (before : List UInt8) : List Stroke → List UInt8
  | [] => before
  | .byte b _ :: strokes => heard newline (if b = newline then [] else before ++ [b]) strokes
  | .clear :: strokes => heard newline [] strokes

theorem Stroke.heard_append (newline : UInt8) (before : List UInt8) (first more : List Stroke) :
    heard newline before (first ++ more) = heard newline (heard newline before first) more := by
  induction first generalizing before with
  | nil => rfl
  | cons stroke first ih => cases stroke <;> exact ih _

/-! ## A listener after a history -/

namespace Listener

variable {capacity limit : Nat}

/-- The setup that a listener has been given. -/
def setup (l : Listener capacity limit H) : Setup H :=
  ⟨l.commands, l.fallback, l.afterLine, l.settings.echo⟩

theorem state_hear (l : Listener capacity limit H) (b : UInt8) :
    (l.hear b).state =
      { l with heard := if b = l.settings.newline then [] else l.heard ++ [b] } := by
  by_cases newline : b = l.settings.newline
  · subst newline
    rw [hear_newline, if_pos rfl]
  · rw [hear_of_ne newline, if_neg newline]

/-- Whether echo is on makes no difference to what is heard. -/
theorem state_hearAll (l : Listener capacity limit H) (bytes : List UInt8) (echo : Bool) :
    (l.hearAll bytes).state =
      { l with heard := Stroke.heard l.settings.newline l.heard (bytes.map (.byte · echo)) } := by
  induction bytes generalizing l with
  | nil => rfl
  | cons b bytes ih =>
    rw [hearAll, Outcome.state_andThen, ih, state_hear]
    rfl

theorem perform_poll (l : Listener capacity limit H) (count : Option Nat) :
    l.perform (.poll count) = l.listen (count.getD l.link.unread.length) := by
  cases count <;> rfl

theorem state_perform_poll (l : Listener capacity limit H) (count : Option Nat) :
    (l.perform (.poll count)).state =
      { l with
        heard := Stroke.heard l.settings.newline l.heard
          ((l.link.unread.take (count.getD l.link.unread.length)).map (.byte · l.settings.echo))
        link := { l.link with unread := l.link.unread.drop (count.getD l.link.unread.length) } } := by
  rw [perform_poll, listen, state_hearAll l _ l.settings.echo]

/-- After a history a listener is what the operations say, and nothing of what handlers are called
with is left in it. -/
theorem state_performAll (l : Listener capacity limit H) (ops : List (Operation H)) :
    let s := ops.foldl Setup.after l.setup
    (l.performAll ops).state =
      { settings := l.settings.withEcho s.echo
        link := { l.link with unread := Operation.leftover l.link.unread ops }
        heard := Stroke.heard l.settings.newline l.heard
          (Operation.strokes l.settings.echo l.link.unread ops)
        commands := s.commands
        fallback := s.fallback
        afterLine := s.afterLine } := by
  intro s
  induction ops generalizing l with
  | nil => rfl
  | cons op ops ih =>
    rw [performAll, Outcome.state_andThen]
    refine (ih (l.perform op).state).trans ?_
    -- the setup is folded from the front, as the operations come
    cases op with
    | poll count =>
      rw [state_perform_poll, Operation.strokes, Stroke.heard_append]
      rfl
    | register | setFallback | setAfterLine | setEcho | feed | clear => rfl

end Listener

/-! ## Terminals that were only set up -/

/-- The operation is one of those that set a terminal up. -/
def Operation.isSetting : Operation H → Bool
  | .register .. | .setFallback _ | .setAfterLine _ | .setEcho _ => true
  | .feed _ | .poll _ | .clear => false

theorem Setup.isSetting_operations (s : Setup H) : ∀ op ∈ s.operations, op.isSetting = true := by
  obtain ⟨commands, fallback, afterLine, echo⟩ := s
  intro op h
  simp only [operations, List.mem_append, List.mem_map, Option.mem_toList, Option.map_eq_some_iff,
    List.mem_singleton] at h
  rcases h with ((⟨c, -, rfl⟩ | ⟨handler, -, rfl⟩) | ⟨handler, -, rfl⟩) | rfl
  all_goals rfl

theorem Operation.strokes_settings {ops : List (Operation H)} (h : ∀ op ∈ ops, op.isSetting = true)
    (echo : Bool) (unread bytes : List UInt8) :
    strokes echo unread (ops ++ [.feed bytes]) = [] ∧
      leftover unread (ops ++ [.feed bytes]) = unread ++ bytes := by
  induction ops generalizing echo with
  | nil => exact ⟨rfl, rfl⟩
  | cons op ops ih =>
    rw [List.forall_mem_cons] at h
    cases op with
    | register | setFallback | setAfterLine => exact ih h.2 echo
    | setEcho on => exact ih h.2 on
    | feed | poll | clear => cases h.1

namespace Terminal

variable {capacity limit : Nat}

/-- A terminal with which nothing was done but to set it up, and bytes that wait for it. -/
def setUp (settings : Settings) (style : BreakStyle) (s : Setup H) (unread : List UInt8) :
    Terminal capacity limit H :=
  ((fresh settings style).performAll (s.operations ++ [.feed unread])).state

theorem state_fresh (settings : Settings) (style : BreakStyle) (ops : List (Operation H)) :
    ((fresh settings style : Terminal capacity limit H).performAll ops).state =
      ((Listener.fresh settings style : Listener capacity limit H).performAll ops).state.terminal := by
  rw [← Listener.terminal_fresh, Listener.performAll_terminal, Outcome.state_map]

theorem unread_fresh (settings : Settings) (style : BreakStyle) (ops : List (Operation H)) :
    ((fresh settings style : Terminal capacity limit H).performAll ops).state.link.unread =
      Operation.leftover [] ops := by
  rw [state_fresh, Listener.state_performAll]
  rfl

theorem setUp_eq (settings : Settings) (style : BreakStyle) (s : Setup H) (unread : List UInt8) :
    (setUp settings style s unread : Terminal capacity limit H) =
      Listener.terminal
        { settings := settings.withEcho s.echo
          link := ⟨unread, style⟩
          commands := s.commands
          fallback := s.fallback
          afterLine := s.afterLine } := by
  have setup : (s.operations ++ [Operation.feed unread]).foldl Setup.after
      (Listener.fresh settings style : Listener capacity limit H).setup = s := by
    rw [List.foldl_append]
    exact Setup.ofHistory_operations settings.echo s
  have still := Operation.strokes_settings s.isSetting_operations settings.echo [] unread
  rw [setUp, state_fresh, Listener.state_performAll, setup]
  simp only [Listener.fresh, still, List.nil_append, Stroke.heard]

theorem settings_setUp (settings : Settings) (style : BreakStyle) (s : Setup H)
    (unread : List UInt8) :
    (setUp settings style s unread : Terminal capacity limit H).console.settings =
      settings.withEcho s.echo := by
  rw [setUp_eq]
  rfl

theorem bytes_setUp (settings : Settings) (style : BreakStyle) (s : Setup H) (unread : List UInt8) :
    (setUp settings style s unread : Terminal capacity limit H).console.line.bytes = [] := by
  rw [setUp_eq]
  exact List.take_nil

/-- Terminals that are set up alike are alike, whatever their capacity. -/
theorem alike_setUp {capacity' : Nat} (settings : Settings) (style : BreakStyle) (s : Setup H)
    (unread : List UInt8) :
    (setUp settings style s unread : Terminal capacity limit H).console.Alike
      (setUp settings style s unread : Terminal capacity' limit H).console := by
  rw [setUp_eq, setUp_eq]
  exact ⟨rfl, rfl, rfl, rfl, rfl⟩

end Terminal

end SerialConsole
