/-
Literals. Each reader takes a literal off the front of a text and gives the number of characters it
took; for text in double quotes it also gives the value. What may stand between the quotes differs
between text, bytes and texts that end in NUL; those differences are one `Quoting` value each.
-/
import SerialConsole.Text.Identifier
import SerialConsole.Text.Basic

namespace SerialConsole.Literal

/-! ## Identifiers at the front -/

/-- The longest identifier at the front, reserved or not. -/
def name? : Text → Option Text
  | [] => none
  | c :: t => if Identifier.isStart c then some (c :: t.takeWhile Identifier.isContinue) else none

/-- The length of a suffix, an identifier that follows a literal at once. -/
def suffixLength (t : Text) : Nat := ((name? t).getD []).length

/-! ## Escapes -/

/-- What may stand between the quotes of a literal. -/
structure Quoting where
  /-- The character may stand for itself. -/
  admits : Char → Bool
  /-- The value may be written with two hexadecimal digits. -/
  admitsHex : Nat → Bool
  /-- The character may be written by its number. -/
  admitsNumber : Char → Bool
  /-- NUL has a short escape. -/
  admitsNul : Bool

/-- Text takes every character; two hexadecimal digits give ASCII only. -/
def Quoting.text : Quoting := ⟨fun _ => true, (· < 0x80), fun _ => true, true⟩

/-- Bytes are ASCII or two hexadecimal digits. -/
def Quoting.bytes : Quoting := ⟨(·.toNat < 0x80), fun _ => true, fun _ => false, true⟩

/-- Texts that end in NUL have no NUL inside. -/
def Quoting.terminated : Quoting := ⟨(· ≠ '\x00'), (· ≠ 0), (· ≠ '\x00'), false⟩

/-- The value of a hexadecimal digit. -/
def hexDigit? (c : Char) : Option Nat :=
  if c.isDigit then some (c.toNat - '0'.toNat)
  else if 'a' ≤ c ∧ c ≤ 'f' then some (10 + (c.toNat - 'a'.toNat))
  else if 'A' ≤ c ∧ c ≤ 'F' then some (10 + (c.toNat - 'A'.toNat))
  else none

/-- The character with the number that one to six hexadecimal digits give; low lines may stand
among them, but not first. -/
def numbered? (t : Text) : Option Char :=
  let digits := t.filter (· ≠ '_')
  let n := digits.foldl (fun n c => 16 * n + (hexDigit? c).getD 0) 0
  if t.head?.any (· ≠ '_') ∧ digits.all (fun c => (hexDigit? c).isSome) ∧ digits.length ≤ 6 ∧
      n.isValidChar then
    some (Char.ofNat n)
  else
    none

/-- The character that an escape stands for and the number of characters after its backslash. -/
def escape? (q : Quoting) : Text → Option (Char × Nat)
  | 'x' :: high :: low :: _ => do
    let n := 16 * (← hexDigit? high) + (← hexDigit? low)
    if q.admitsHex n then some (Char.ofNat n, 3) else none
  | 'u' :: '\x7b' :: t => do
    let digits := t.takeWhile (· ≠ '\x7d')
    let c ← numbered? digits
    if digits.length < t.length ∧ q.admitsNumber c then some (c, digits.length + 3) else none
  | 'n' :: _ => some ('\n', 1)
  | 'r' :: _ => some ('\r', 1)
  | 't' :: _ => some ('\t', 1)
  | '\\' :: _ => some ('\\', 1)
  | '\'' :: _ => some ('\'', 1)
  | '"' :: _ => some ('"', 1)
  | '0' :: _ => if q.admitsNul then some ('\x00', 1) else none
  | _ => none

/-- The number of blanks and line ends that a backslash at the end of a line leaves out; a carriage
return must go with a line feed. -/
def omitted? : Text → Option Nat
  | [] => some 0
  | '\r' :: '\n' :: t => (omitted? t).map (· + 2)
  | '\r' :: _ => none
  | c :: t => if c = ' ' ∨ c = '\t' ∨ c = '\n' then (omitted? t).map (· + 1) else some 0

/-- What a backslash and the text after it stand for, and the number of characters after it. -/
def continued? (q : Quoting) (t : Text) : Option (Text × Nat) :=
  if t.head? = some '\n' ∨ t.head? = some '\r' then
    (omitted? t).map ([], ·)
  else
    (escape? q t).map fun (c, n) => ([c], n)

/-! ## Between double quotes -/

/-- The value up to the closing quote, and the number of characters taken with the quote. A line
end of carriage return and line feed stands for the line feed. -/
def quoted? (q : Quoting) : Text → Option (Text × Nat)
  | [] => none
  | '"' :: _ => some ([], 1)
  | '\r' :: '\n' :: t => (quoted? q t).map fun (value, n) => ('\n' :: value, n + 2)
  | '\r' :: _ => none
  | '\\' :: t =>
    match continued? q t with
    | none => none
    | some (first, n) =>
      (quoted? q (t.drop n)).map fun (value, m) => (first ++ value, m + n + 1)
  | c :: t =>
    if q.admits c then (quoted? q t).map fun (value, n) => (c :: value, n + 1) else none
termination_by t => t.length
decreasing_by all_goals simp +arith

/-- The value up to a quote with so many number signs after it, and the number of characters taken
with them. Nothing is escaped. -/
def unescaped? (q : Quoting) (signs : Nat) : Text → Option (Text × Nat)
  | [] => none
  | '\r' :: '\n' :: t => (unescaped? q signs t).map fun (value, n) => ('\r' :: '\n' :: value, n + 2)
  | '\r' :: _ => none
  | c :: t =>
    if c = '"' ∧ List.replicate signs '#' <+: t then
      some ([], signs + 1)
    else if q.admits c then
      (unescaped? q signs t).map fun (value, n) => (c :: value, n + 1)
    else
      none

/-- The value of a raw text after its `r`: number signs, at most 255, and a quote open it. -/
def raw? (q : Quoting) (t : Text) : Option (Text × Nat) :=
  let signs := (t.takeWhile (· = '#')).length
  match t.drop signs with
  | '"' :: t =>
    if signs ≤ 255 then (unescaped? q signs t).map fun (value, n) => (value, n + signs + 1)
    else none
  | _ => none

/-- The number of characters of one character and the single quote that closes it. -/
def character? (q : Quoting) : Text → Option Nat
  | '\\' :: t => do
    let (_, n) ← escape? q t
    if t[n]? = some '\'' then some (n + 2) else none
  | c :: '\'' :: _ => if q.admits c then some 2 else none
  | _ => none

/-! ## Numbers -/

/-- The length of what ends a number: a suffix, or nothing if the next character could not go on
with an identifier. -/
def ending? (t : Text) : Option Nat :=
  if (name? t).isNone ∧ t.head?.any Identifier.isContinue then none else some (suffixLength t)

/-- The length of an integer in the base; low lines may stand among its digits. -/
def digits? (base : Nat) (t : Text) : Option Nat :=
  let run := t.takeWhile fun c => c == '_' || c.isDigit || (hexDigit? c).any (· < base)
  if run.all (fun c => c == '_' || (hexDigit? c).any (· < base)) ∧ run.any (· ≠ '_') ∧
      (base = 10 → run.head? ≠ some '_') then
    (ending? (t.drop run.length)).map (· + run.length)
  else
    none

/-- The length of an integer. -/
def integer? : Text → Option Nat
  | '0' :: 'x' :: t => (digits? 16 t).map (· + 2)
  | '0' :: 'o' :: t => (digits? 8 t).map (· + 2)
  | '0' :: 'b' :: t => (digits? 2 t).map (· + 2)
  | t => digits? 10 t

/-- A decimal digit or a low line. -/
def isDigitOrLow (c : Char) : Bool := c.isDigit || c == '_'

/-- The length of an exponent: its letter, a sign if there is one, and digits. -/
def exponent? : Text → Option Nat
  | [] => none
  | e :: t =>
    let low := (t.takeWhile (· = '_')).length
    let sign := if (t[low]?).any fun c => c = '+' ∨ c = '-' then 1 else 0
    let low' := ((t.drop (low + sign)).takeWhile (· = '_')).length
    let digits := (t.drop (low + sign)).takeWhile isDigitOrLow
    if (e = 'e' ∨ e = 'E') ∧ low' < digits.length then
      some (1 + low + sign + digits.length)
    else
      none

/-- The length of a number with a point or an exponent. A point does not belong to the number if
another point or an identifier follows it. -/
def decimal? (t : Text) : Option Nat := do
  let whole := (t.takeWhile isDigitOrLow).length
  let hasPoint := t[whole]? = some '.'
  if !(t.head?.any Char.isDigit) then none
  if hasPoint ∧ (t[whole + 1]?).any fun c => c = '.' ∨ Identifier.isStart c then none
  let start :=
    if hasPoint then whole + 1 + ((t.drop (whole + 1)).takeWhile isDigitOrLow).length else whole
  let length ← match exponent? (t.drop start) with
    | some n => some (start + n)
    | none => if hasPoint then some start else none
  (ending? (t.drop length)).map (· + length)

/-- The length of a number. -/
def number? (t : Text) : Option Nat := (decimal? t).or (integer? t)

end SerialConsole.Literal
