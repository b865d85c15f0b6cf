import PatchTrial.Decimal.Layout

/-!
Texts of values by the directives of a format.

A directive says how a value is shown: by its kind, a least width, a precision and flags. Numbers
are shown exactly, rounded to the nearest at the last place, a half going to the even neighbour.
-/
namespace PatchTrial.Decimal

structure Directive where
  /-- Fill up on the right. -/
  left : Bool := false
  /-- Fill up with zeros. -/
  zeros : Bool := false
  plus : Bool := false
  blank : Bool := false
  /-- Show the base or the point in any case. -/
  alternate : Bool := false
  width : Nat := 0
  precision : Option Nat := none
  kind : Char := 's'
  deriving Repr

namespace Directive

/-- A text brought to the width, without zeros. -/
def padded (d : Directive) (text : List Char) : List Char :=
  let missing := List.replicate (d.width - text.length) ' '
  if d.left then text ++ missing else missing ++ text

/-- A number brought to the width; zeros go behind its sign and base. -/
def paddedNumber (d : Directive) (useZeros : Bool) (lead digits : List Char) : List Char :=
  if d.zeros && !d.left && useZeros then
    lead ++ List.replicate (d.width - lead.length - digits.length) '0' ++ digits
  else d.padded (lead ++ digits)

/-- What stands before a number. -/
def sign (d : Directive) (negative : Bool) : List Char :=
  if negative then ['-'] else if d.plus then ['+'] else if d.blank then [' '] else []

/-- Digits filled up to the precision; none for a zero with precision zero. -/
def wholeDigits (d : Directive) (base n : Nat) : List Char :=
  let ds := if n = 0 && d.precision = some 0 then [] else Nat.toDigits base n
  List.replicate (d.precision.getD 1 - ds.length) '0' ++ ds

/-- A whole number with its sign. -/
def signed (d : Directive) (n : Int) : List Char :=
  d.paddedNumber d.precision.isNone (d.sign (n < 0)) (d.wholeDigits 10 n.natAbs)

/-- A natural number in the base of the kind. -/
def unsigned (d : Directive) (n : Nat) : List Char :=
  let plain := d.precision.isNone
  match d.kind with
  | 'o' =>
    let ds := d.wholeDigits 8 n
    let ds := if d.alternate && ds.head? != some '0' then '0' :: ds else ds
    d.paddedNumber plain [] ds
  | 'x' =>
    d.paddedNumber plain (if d.alternate && n ≠ 0 then ['0', 'x'] else []) (d.wholeDigits 16 n)
  | 'X' =>
    d.paddedNumber plain (if d.alternate && n ≠ 0 then ['0', 'X'] else [])
      ((d.wholeDigits 16 n).map Char.toUpper)
  | _ => d.paddedNumber plain [] (d.wholeDigits 10 n)

/-! ### Floating-point numbers -/

/-- The exponent of the first digit of a positive number with `places` digits behind it, and the
rounded digits. -/
def scientificDigits (places : Nat) (b : Binary) : Int × List Char :=
  if b.mantissa = 0 then (0, List.replicate (places + 1) '0')
  else
    let (num, den) := b.fraction
    let guess : Int := ((num.log2 : Int) - den.log2 - 1) * 30103 / 100000 - 1
    let e := pointFrom num den 8 guess - 1
    let (n, nd) := tenScaled 1 (places - e)
    let ds := Nat.toDigits 10 (roundDiv (num * n) (den * nd))
    if places + 1 < ds.length then (e + 1, ds.take (places + 1)) else (e, ds)

/-- Digits behind a point, which is left out where nothing follows unless it is asked for. -/
def withPoint (d : Directive) (whole behind : List Char) : List Char :=
  if behind.isEmpty && !d.alternate then whole else whole ++ '.' :: behind

/-- An exponent with its sign and at least two digits. -/
def exponentPart (letter : Char) (least : Nat) (e : Int) : List Char :=
  let ds := Nat.toDigits 10 e.natAbs
  letter :: (if e < 0 then '-' else '+') :: (List.replicate (least - ds.length) '0' ++ ds)

/-- With an exponent. -/
def scientific (d : Directive) (places : Nat) (b : Binary) : List Char :=
  let (e, ds) := scientificDigits places b
  d.withPoint (ds.take 1) (ds.drop 1) ++ exponentPart 'e' 2 e

/-- Without an exponent. -/
def positional (d : Directive) (places : Nat) (b : Binary) : List Char :=
  let text := fixedMagnitude places b
  if places = 0 then d.withPoint text [] else text

/-- Digits behind a point without the zeros at their end. -/
def stripped (text : List Char) : List Char :=
  if text.contains '.' then
    let kept := (text.reverse.dropWhile (· == '0')).reverse
    if kept.getLast? = some '.' then kept.dropLast else kept
  else text

/-- With or without an exponent, whichever is shorter, in so many digits. -/
def general (d : Directive) (b : Binary) : List Char :=
  let digits := max 1 (d.precision.getD 6)
  let (e, _) := scientificDigits (digits - 1) b
  if -4 ≤ e && e < digits then
    let text := d.positional (digits - 1 - e).toNat b
    if d.alternate then text else stripped text
  else
    let text := d.scientific (digits - 1) b
    let mantissa := text.takeWhile (· != 'e')
    (if d.alternate then mantissa else stripped mantissa) ++ text.drop mantissa.length

/-- In base sixteen, with a binary exponent. -/
def hexadecimal (d : Directive) (b : Binary) : List Char :=
  if b.mantissa = 0 then
    d.withPoint ['0'] (List.replicate (d.precision.getD 0) '0') ++ exponentPart 'p' 1 0
  else
    let shift := 52 - b.mantissa.log2
    let m := b.mantissa * Nat.pow 2 shift
    let e : Int := b.exponent - shift + 52
    match d.precision with
    | none =>
      let behind := Nat.toDigits 16 (m % 0x10000000000000)
      let behind := List.replicate (13 - behind.length) '0' ++ behind
      let behind := (behind.reverse.dropWhile (· == '0')).reverse
      d.withPoint ['1'] behind ++ exponentPart 'p' 1 e
    | some p =>
      let kept := roundDiv (m * Nat.pow 16 p) (0x10000000000000)
      let behind := Nat.toDigits 16 (kept % Nat.pow 16 p)
      let behind := if p = 0 then [] else List.replicate (p - behind.length) '0' ++ behind
      d.withPoint (Nat.toDigits 16 (kept / Nat.pow 16 p)) behind ++ exponentPart 'p' 1 e

/-- A floating-point number. -/
def float (d : Directive) (r : Reading) : List Char :=
  let upper := d.kind.isUpper
  let cased (text : List Char) : List Char := if upper then text.map Char.toUpper else text
  match r with
  | .notANumber => d.padded (cased (d.sign false ++ ['n', 'a', 'n']))
  | .infinite negative => d.padded (cased (d.sign negative ++ ['i', 'n', 'f']))
  | .finite b =>
    let sign := d.sign b.negative
    match d.kind.toLower with
    | 'e' => d.paddedNumber true sign (cased (d.scientific (d.precision.getD 6) b))
    | 'g' => d.paddedNumber true sign (cased (d.general b))
    | 'a' => d.paddedNumber true (sign ++ cased ['0', 'x']) (cased (d.hexadecimal b))
    | _ => d.paddedNumber true sign (d.positional (d.precision.getD 6) b)

/-- A text, of which the precision shows the start. -/
def text (d : Directive) (cs : List Char) : List Char :=
  d.padded (match d.precision with
    | some p => cs.take p
    | none => cs)

/-! ### Reading -/

/-- The flags at the start of a directive. -/
def readFlags : List Char → Directive → Directive × List Char
  | '-' :: cs, d => readFlags cs { d with left := true }
  | '0' :: cs, d => readFlags cs { d with zeros := true }
  | '+' :: cs, d => readFlags cs { d with plus := true }
  | ' ' :: cs, d => readFlags cs { d with blank := true }
  | '#' :: cs, d => readFlags cs { d with alternate := true }
  | cs, d => (d, cs)

end Directive

/-- The decimal or hexadecimal fraction at the start of a text, with what follows it. -/
def readNumeral? (cs : List Char) : Option (Float × List Char) :=
  let (negative, rest) := match cs with
    | '-' :: rest => (true, rest)
    | '+' :: rest => (false, rest)
    | rest => (false, rest)
  let startsWith (word : String) : Bool := word.toList.isPrefixOf (rest.map Char.toLower)
  let signed (x : Float) : Float := if negative then -x else x
  if startsWith "infinity" then some (signed (1.0 / 0.0), rest.drop 8)
  else if startsWith "inf" then some (signed (1.0 / 0.0), rest.drop 3)
  else if startsWith "nan" then some (signed (0.0 / 0.0), rest.drop 3)
  else
    let hexDigit (c : Char) : Bool := c.isDigit || ('a' ≤ c.toLower && c.toLower ≤ 'f')
    let hexValue (c : Char) : Nat :=
      if c.isDigit then c.toNat - '0'.toNat else c.toLower.toNat - 'a'.toNat + 10
    let parts (isDigit : Char → Bool) (cs : List Char) : List Char × List Char × List Char :=
      let (whole, rest) := cs.span isDigit
      match rest with
      | '.' :: behind =>
        let (behind, rest) := behind.span isDigit
        (whole, behind, rest)
      | rest => (whole, [], rest)
    let exponent (letter : Char) (cs : List Char) : Int × List Char :=
      match cs with
      | c :: rest =>
        if c.toLower = letter then
          let (sign, digits) : Int × List Char := match rest with
            | '-' :: ds => (-1, ds)
            | '+' :: ds => (1, ds)
            | ds => (1, ds)
          let (ds, after) := digits.span Char.isDigit
          if ds.isEmpty then (0, cs) else (sign * (Nat.ofDigitChars 10 ds 0 : Int), after)
        else (0, cs)
      | [] => (0, cs)
    let hex : Option (Float × List Char) := match rest with
      | '0' :: x :: digits =>
        let (whole, behind, after) := parts hexDigit digits
        if x.toLower = 'x' && !(whole ++ behind).isEmpty then
          let (e, after) := exponent 'p' after
          let n := (whole ++ behind).foldl (fun n c => n * 16 + hexValue c) 0
          let (num, den) := scaled 1 (max (-5000) (min 5000 (e - 4 * behind.length)))
          some (nearest negative (n * num) den, after)
        else none
      | _ => none
    match hex with
    | some found => some found
    | none =>
      let (whole, behind, after) := parts Char.isDigit rest
      if (whole ++ behind).isEmpty then none
      else
        let (e, after) := exponent 'e' after
        let n := Nat.ofDigitChars 10 (whole ++ behind) 0
        some ((Numeral.mk negative n (e - behind.length)).toFloat, after)

end PatchTrial.Decimal
