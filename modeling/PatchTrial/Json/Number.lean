import PatchTrial.Json.Basic
import PatchTrial.Decimal.Nearest

/-!
Numbers in JSON texts.

A number without fraction and exponent is whole if it fits a 64-bit word. Any other is scaled
from the leading digits that fit 64 bits by one multiplication or division with a power of ten, so
a text of more digits than that need not give the nearest double. A number beyond the range of
doubles is refused, one too small to represent is zero.
-/
namespace PatchTrial.Json

def isDecimalDigit (c : Char) : Bool := '0' ≤ c && c ≤ '9'

/-- The first digits of `ds`, after those of `seen`, that fit 64 bits, and the others. -/
def leadingDigits (seen : Nat) : List Char → Nat × List Char
  | [] => (seen, [])
  | d :: ds =>
    let next := seen * 10 + (d.toNat - '0'.toNat)
    if next < 0x10000000000000000 then leadingDigits next ds else (seen, d :: ds)

/-- `f · 10 ^ e`, in steps of 10 ^ 308. -/
def scaleByTen : Nat → Float → Int → Option Float
  | 0, f, _ => some f
  | fuel + 1, f, e =>
    if e.natAbs ≤ 308 then
      if e < 0 then some (f / Decimal.powerOfTen e.natAbs)
      else
        let r := f * Decimal.powerOfTen e.natAbs
        if r.isInf then none else some r
    else if f == 0 then some f
    else if e < 0 then scaleByTen fuel (f / Decimal.powerOfTen 308) (e + 308)
    else none

/-- A number as it is written. -/
structure Numeral where
  negative : Bool
  whole : List Char
  fraction : Option (List Char)
  exponent : Option (Bool × List Char)

/-- The exponent that a numeral states; `none` if it does not fit 32 bits. -/
def Numeral.statedExponent (n : Numeral) : Option Int :=
  match n.exponent with
  | none => some 0
  | some (negative, ds) =>
    let e := Nat.ofDigitChars 10 ds 0
    if e < 0x80000000 then some (if negative then -e else e) else none

/-- The double that a numeral stands for, if it is in range. -/
def Numeral.toDouble? (n : Numeral) : Option Float :=
  let (seen, left) := leadingDigits 0 n.whole
  let (seen, used) := match n.fraction with
    | none => (seen, 0)
    | some ds =>
      let (seen', left') := leadingDigits seen ds
      (seen', ds.length - left'.length)
  let sign (f : Float) := if n.negative then -f else f
  match n.statedExponent with
  | some e =>
    let e := e + left.length - used
    (scaleByTen (e.natAbs / 308 + 1) (UInt64.ofNat seen).toFloat e).map sign
  | none =>
    let shrinks := n.exponent.any (·.1)
    if seen = 0 || shrinks then some (sign 0) else none

/-- The number that a numeral stands for. A negative zero and a whole number out of range are
doubles. -/
def Numeral.toNumber? (n : Numeral) : Option Number :=
  let value := Nat.ofDigitChars 10 n.whole 0
  if n.fraction.isSome || n.exponent.isSome then n.toDouble?.map .double
  else if !n.negative && value < 0x10000000000000000 then some (.natural (UInt64.ofNat value))
  else if n.negative && 0 < value && value ≤ 0x8000000000000000 then
    some (.negative (Int64.ofInt (-value)))
  else n.toDouble?.map .double

/-- At least one digit, and what follows the digits. -/
def digits? (cs : List Char) : Option (List Char × List Char) :=
  match cs.span isDecimalDigit with
  | ([], _) => none
  | found => some found

/-- The digits before the point: a single zero, or no zero in front. -/
def wholeDigits? (cs : List Char) : Option (List Char × List Char) := do
  let (ds, rest) ← digits? cs
  if ds.head? = some '0' && ds.length > 1 then none else some (ds, rest)

def fraction? (cs : List Char) : Option (Option (List Char) × List Char) :=
  match cs with
  | '.' :: rest => (digits? rest).map fun (ds, rest) => (some ds, rest)
  | _ => some (none, cs)

/-- Digits behind an optional sign, and whether the sign is a minus. -/
def signedDigits? (cs : List Char) : Option ((Bool × List Char) × List Char) :=
  match cs with
  | '-' :: rest => (digits? rest).map fun (ds, rest) => ((true, ds), rest)
  | '+' :: rest => (digits? rest).map fun (ds, rest) => ((false, ds), rest)
  | _ => (digits? cs).map fun (ds, rest) => ((false, ds), rest)

def exponent? (cs : List Char) : Option (Option (Bool × List Char) × List Char) :=
  match cs with
  | 'e' :: rest => (signedDigits? rest).map fun (e, rest) => (some e, rest)
  | 'E' :: rest => (signedDigits? rest).map fun (e, rest) => (some e, rest)
  | _ => some (none, cs)

/-- Read a number behind its sign. -/
def readUnsigned? (negative : Bool) (cs : List Char) : Option (Option Number × List Char) := do
  let (whole, cs) ← wholeDigits? cs
  let (fraction, cs) ← fraction? cs
  let (exponent, cs) ← exponent? cs
  return (Numeral.toNumber? ⟨negative, whole, fraction, exponent⟩, cs)

/-- Read a number at the start of `cs`; there is none for a numeral that is out of range. -/
def readNumber? (cs : List Char) : Option (Option Number × List Char) :=
  match cs with
  | '-' :: rest => readUnsigned? true rest
  | _ => readUnsigned? false cs

end PatchTrial.Json
