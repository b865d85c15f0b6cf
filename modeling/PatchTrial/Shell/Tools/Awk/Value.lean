import PatchTrial.Decimal.Directive
import PatchTrial.Shell.Tools.Basic

/-!
Values that are texts, numbers or both.

A text that comes from outside and looks like a number counts as one where it is compared.
-/
namespace PatchTrial.Shell.Tools.Awk

inductive Value where
  /-- That of a variable that has never been set. -/
  | unset
  | number (x : Float)
  | text (s : String)
  /-- A text that looks like a number. -/
  | numeral (s : String) (x : Float)
  deriving Inhabited

/-! ### Numbers and texts -/

/-- The whole part of a number, as far as it fits into 64 bits. -/
def wholePart (x : Float) : Int :=
  if x.isNaN then 0
  else if x < 0 then max (-((-x).toUInt64.toNat : Int)) (-(0x8000000000000000))
  else min (x.toUInt64.toNat : Int) (0x8000000000000000 - 1)

/-- Whether a number is whole and fits into 64 bits. -/
def isWhole (x : Float) : Bool := !x.isNaN && x.abs ≤ 9.3e18 && Float.ofInt (wholePart x) == x

def isBlankChar (c : Char) : Bool := c == ' ' || c == '\t' || c == '\n'

/-- The number at the start of a text, or zero. -/
def numberAt (s : String) : Float :=
  match Decimal.readNumeral? (s.toList.dropWhile isBlankChar) with
  | some (x, _) => x
  | none => 0

/-- The value of a text that comes from outside. -/
def outside (s : String) : Value :=
  let cs := s.toList.dropWhile isBlankChar
  let start := match cs with
    | '+' :: cs => cs
    | '-' :: cs => cs
    | cs => cs
  if start.head?.any fun c => c.isDigit || c == '.' then
    match Decimal.readNumeral? cs with
    | some (x, rest) => if rest.all isBlankChar then .numeral s x else .text s
    | none => .text s
  else .text s

/-- Where one directive of a format ends: its flags, the stars and numbers for width and precision,
and its kind. -/
structure Slot where
  directive : Decimal.Directive
  starWidth : Bool
  starPrecision : Bool

/-- The directive behind a percent sign. -/
def readSlot (cs : List Char) : Option (Slot × List Char) :=
  let (d, cs) := Decimal.Directive.readFlags cs {}
  let number (cs : List Char) : Option Nat × Bool × List Char :=
    match cs with
    | '*' :: cs => (none, true, cs)
    | cs =>
      let (ds, rest) := cs.span Char.isDigit
      (if ds.isEmpty then none else some (Nat.ofDigitChars 10 ds 0), false, rest)
  let (width, starWidth, cs) := number cs
  let d := { d with width := width.getD 0 }
  let (d, starPrecision, cs) : Decimal.Directive × Bool × List Char := match cs with
    | '.' :: cs =>
      let (precision, star, cs) := number cs
      ({ d with precision := some (precision.getD 0) }, star, cs)
    | cs => (d, false, cs)
  match cs.dropWhile fun c => c == 'l' || c == 'h' with
  | kind :: rest => some (⟨{ d with kind := kind }, starWidth, starPrecision⟩, rest)
  | [] => none

/-- A number by a format with one directive. -/
def formatNumber (format : String) (x : Float) : String :=
  let cs := format.toList
  let before := cs.takeWhile (· ≠ '%')
  match readSlot (cs.drop (before.length + 1)) with
  | none => format
  | some (slot, rest) =>
    let d := slot.directive
    let shown := if d.kind = 'd' || d.kind = 'i' then d.signed (wholePart x)
      else d.float (Decimal.ofFloat x)
    String.ofList (before ++ shown ++ rest)

/-- The text of a number; one that is not whole is written by a format. -/
def numberText (format : String) (x : Float) : String :=
  if x.isNaN then "-nan" else if isWhole x then toString (wholePart x) else formatNumber format x

namespace Value

def ofBool (b : Bool) : Value := .number (if b then 1 else 0)

def ofNat (n : Nat) : Value := .number n.toFloat

def toNumber : Value → Float
  | .unset => 0
  | .number x => x
  | .text s => numberAt s
  | .numeral _ x => x

/-- The text of a value, numbers by a format. -/
def toText (format : String) : Value → String
  | .unset => ""
  | .number x => numberText format x
  | .text s => s
  | .numeral s _ => s

def isTrue : Value → Bool
  | .unset => false
  | .number x => x != 0
  | .text s => !s.isEmpty
  | .numeral _ x => x != 0

/-- Whether a value is compared as a number. -/
def isNumeric : Value → Bool
  | .text _ => false
  | _ => true

/-- Compare values: as numbers if both are, or else as texts. -/
def order (format : String) (a b : Value) : Ordering :=
  if a.isNumeric && b.isNumeric then
    let (x, y) := (a.toNumber, b.toNumber)
    if x < y then .lt else if x == y then .eq else .gt
  else compare (a.toText format) (b.toText format)

end Value

/-! ### Arithmetic -/

/-- What is left of a number after it has been divided; the sign is that of the number. -/
def remainder (x y : Float) : Float :=
  if y == 0 || x.isNaN || y.isNaN || x.isInf then 0.0 / 0.0
  else if y.isInf then x
  else
    match Decimal.ofFloat x, Decimal.ofFloat y with
    | .finite a, .finite b =>
      let e := min a.exponent b.exponent
      let m := a.mantissa * Nat.pow 2 (a.exponent - e).toNat
      let n := b.mantissa * Nat.pow 2 (b.exponent - e).toNat
      let r := Float.scaleB (m % n).toFloat e
      if a.negative then -r else r
    | _, _ => 0.0 / 0.0

end PatchTrial.Shell.Tools.Awk
