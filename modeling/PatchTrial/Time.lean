import PatchTrial.Text.Basic

/-!
Points in time, as calendar fields in universal time.

Reading follows RFC 3339 with some leniency: blanks may stand before each number and separator,
numbers may be shorter than usual, a blank may stand for the `T`, and `UTC` for the `Z`. A time
with an offset is shifted to universal time. Second 60 is accepted and kept. Writing shows no
fraction, or three, six or nine digits of it, the fewest that lose nothing.
-/
namespace PatchTrial

structure Timestamp where
  year : Int
  month : Nat
  day : Nat
  hour : Nat
  minute : Nat
  second : Nat
  nanos : Nat
  deriving DecidableEq, Repr, Inhabited

namespace Timestamp

open Text

def isLeapYear (y : Int) : Bool := y % 4 = 0 && (y % 100 ≠ 0 || y % 400 = 0)

def daysInMonth (y : Int) (m : Nat) : Nat :=
  if m = 2 then (if isLeapYear y then 29 else 28)
  else if m = 4 ∨ m = 6 ∨ m = 9 ∨ m = 11 then 30
  else 31

/-- Whether the fields name a day and a time of day. -/
def isValid (t : Timestamp) : Bool :=
  -262143 ≤ t.year && t.year ≤ 262142 && 1 ≤ t.month && t.month ≤ 12 && 1 ≤ t.day &&
    t.day ≤ daysInMonth t.year t.month && t.hour ≤ 23 && t.minute ≤ 59 && t.second ≤ 60

def nextDay (t : Timestamp) : Timestamp :=
  if t.day < daysInMonth t.year t.month then { t with day := t.day + 1 }
  else if t.month < 12 then { t with month := t.month + 1, day := 1 }
  else { t with year := t.year + 1, month := 1, day := 1 }

def previousDay (t : Timestamp) : Timestamp :=
  if 1 < t.day then { t with day := t.day - 1 }
  else if 1 < t.month then
    { t with month := t.month - 1, day := daysInMonth t.year (t.month - 1) }
  else { t with year := t.year - 1, month := 12, day := 31 }

/-- The same moment in universal time, for a clock that is ahead of it by `offset` minutes, which
is less than a day. -/
def toUniversal (t : Timestamp) (offset : Int) : Timestamp :=
  let minutes : Int := t.hour * 60 + t.minute - offset
  let t' := if minutes < 0 then previousDay t else if 1440 ≤ minutes then nextDay t else t
  let within := (minutes % 1440).toNat
  { t' with hour := within / 60, minute := within % 60 }

def isDigit10 (c : Char) : Bool := '0' ≤ c && c ≤ '9'

/-- A number of one to `most` digits, blanks in front being skipped. -/
def digits? (most : Nat) (cs : List Char) : Option (Nat × List Char) :=
  let cs := trimStart cs
  let ds := (cs.take most).takeWhile isDigit10
  if ds.isEmpty then none else some (Nat.ofDigitChars 10 ds 0, cs.drop ds.length)

/-- A year: with a sign any number of digits, without one at most four. -/
def year? (cs : List Char) : Option (Int × List Char) :=
  let cs := trimStart cs
  let signed (rest : List Char) :=
    let ds := rest.takeWhile isDigit10
    if ds.isEmpty then none else some (Nat.ofDigitChars 10 ds 0, rest.drop ds.length)
  match cs with
  | '-' :: rest => (signed rest).map fun (n, r) => (-(n : Int), r)
  | '+' :: rest => (signed rest).map fun (n, r) => ((n : Int), r)
  | _ => (digits? 4 cs).map fun (n, r) => ((n : Int), r)

/-- A separator, blanks in front being skipped. -/
def separator? (c : Char) (cs : List Char) : Option (List Char) :=
  match trimStart cs with
  | c' :: rest => if c' = c then some rest else none
  | [] => none

/-- A fraction of a second in billionths; digits beyond the ninth are passed over. -/
def fraction? (cs : List Char) : Option (Nat × List Char) :=
  match cs with
  | '.' :: rest =>
    let ds := (rest.take 9).takeWhile isDigit10
    if ds.isEmpty then none
    else some (Nat.ofDigitChars 10 ds 0 * Nat.pow 10 (9 - ds.length),
      (rest.drop ds.length).dropWhile isDigit10)
  | _ => some (0, cs)

/-- Two digits. -/
def twoDigits? : List Char → Option (Nat × List Char)
  | a :: b :: rest =>
    if isDigit10 a && isDigit10 b then some (Nat.ofDigitChars 10 [a, b] 0, rest) else none
  | _ => none

/-- An offset from universal time in minutes. -/
def offset? (cs : List Char) : Option (Int × List Char) :=
  let numeric (ahead : Bool) (rest : List Char) : Option (Int × List Char) := do
    let (hours, rest) ← twoDigits? rest
    let (minutes, rest) ← twoDigits? (rest.dropWhile fun c => c == ':' || isBlank c)
    guard (minutes ≤ 59 && hours ≤ 23)
    let total : Int := hours * 60 + minutes
    return (if ahead then total else -total, rest)
  match trimStart cs with
  | 'Z' :: rest => some (0, rest)
  | 'z' :: rest => some (0, rest)
  | '+' :: rest => numeric true rest
  | '-' :: rest => numeric false rest
  | '−' :: rest => numeric false rest
  | a :: b :: c :: rest => if asciiLower [a, b, c] = ['u', 't', 'c'] then some (0, rest) else none
  | _ => none

/-- The letter between date and time, for which a blank may stand. -/
def dateEnd? : List Char → Option (List Char)
  | 'T' :: rest => some rest
  | 't' :: rest => some rest
  | ' ' :: rest => some rest
  | _ => none

def parse? (text : String) : Option Timestamp := do
  let (year, cs) ← year? text.toList
  let (month, cs) ← digits? 2 (← separator? '-' cs)
  let (day, cs) ← digits? 2 (← separator? '-' cs)
  let (hour, cs) ← digits? 2 (← dateEnd? cs)
  let (minute, cs) ← digits? 2 (← separator? ':' cs)
  let (second, cs) ← digits? 2 (← separator? ':' cs)
  let (nanos, cs) ← fraction? cs
  let (offset, cs) ← offset? cs
  let t : Timestamp := ⟨year, month, day, hour, minute, second, nanos⟩
  guard (t.isValid && (trimStart cs).isEmpty)
  let u := t.toUniversal offset
  guard u.isValid
  return u

/-- A number in at least `width` digits. -/
def padded (width n : Nat) : List Char :=
  let ds := Nat.toDigits 10 n
  List.replicate (width - ds.length) '0' ++ ds

def yearText (y : Int) : List Char :=
  if 0 ≤ y ∧ y ≤ 9999 then padded 4 y.toNat
  else (if y < 0 then '-' else '+') :: padded 4 y.natAbs

def fractionText (nanos : Nat) : List Char :=
  if nanos = 0 then []
  else if nanos % 1000000 = 0 then '.' :: padded 3 (nanos / 1000000)
  else if nanos % 1000 = 0 then '.' :: padded 6 (nanos / 1000)
  else '.' :: padded 9 nanos

def toText (t : Timestamp) : String :=
  String.ofList (yearText t.year ++ '-' :: padded 2 t.month ++ '-' :: padded 2 t.day ++
    'T' :: padded 2 t.hour ++ ':' :: padded 2 t.minute ++ ':' :: padded 2 t.second ++
    fractionText t.nanos ++ ['Z'])

end Timestamp

end PatchTrial
