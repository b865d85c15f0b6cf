import PatchTrial.Decimal.Shortest

/-!
Decimal texts of floating-point numbers.

`plain` never uses an exponent; `interchange` is the form that JSON texts carry, with an exponent
below 10 ^ -5 and from 10 ^ 16 on; `fixed` shows a set number of places, the exact value being
rounded with a half going to the even neighbour.
-/
namespace PatchTrial.Decimal

/-- How shortest digits are laid out: between which decimal points no exponent is used, and
whether a whole number shows `.0`. -/
structure Layout where
  positional : Int → Bool
  wholePoint : Bool

/-- No exponent, and no point in whole numbers. -/
def Layout.plain : Layout := ⟨fun _ => true, false⟩

/-- An exponent below 10 ^ -5 and from 10 ^ 16 on, and a point in whole numbers. -/
def Layout.interchange : Layout := ⟨fun k => -5 < k && k ≤ 16, true⟩

/-- Zeros to fill up. -/
def zeros (n : Int) : List Char := List.replicate n.toNat '0'

/-- Digits with the point among, before or after them. -/
def Layout.positionalText (l : Layout) (d : Digits) : List Char :=
  let n := d.digits.length
  if d.point ≤ 0 then '0' :: '.' :: (zeros (-d.point) ++ d.digits)
  else if d.point ≥ n then
    d.digits ++ zeros (d.point - n) ++ (if l.wholePoint then ['.', '0'] else [])
  else d.digits.take d.point.toNat ++ '.' :: d.digits.drop d.point.toNat

/-- One digit before the point, the rest behind it, and a signed exponent. -/
def exponentText (d : Digits) : List Char :=
  let e := d.point - 1
  let tail := d.digits.drop 1
  d.digits.take 1 ++ (if tail.isEmpty then [] else '.' :: tail) ++
    'e' :: (if e < 0 then '-' else '+') :: Nat.toDigits 10 e.natAbs

def Layout.magnitude (l : Layout) (b : Binary) : List Char :=
  if b.mantissa = 0 then (if l.wholePoint then ['0', '.', '0'] else ['0'])
  else
    let d := b.shortest
    if l.positional d.point then l.positionalText d else exponentText d

/-- The text of a reading; `sign` is what stands before a number that is not negative. -/
def withSign (sign : List Char) (magnitude : Binary → List Char) : Reading → String
  | .notANumber => "NaN"
  | .infinite neg => String.ofList ((if neg then ['-'] else sign) ++ ['i', 'n', 'f'])
  | .finite b => String.ofList ((if b.negative then ['-'] else sign) ++ magnitude b)

def Layout.text (l : Layout) (r : Reading) : String := withSign [] l.magnitude r

/-- The magnitude with `places` digits behind the point. -/
def fixedMagnitude (places : Nat) (b : Binary) : List Char :=
  let (num, den) := b.fraction
  let ds := Nat.toDigits 10 (roundDiv (num * Nat.pow 10 places) den)
  let ds := zeros (places + 1 - ds.length) ++ ds
  if places = 0 then ds
  else ds.take (ds.length - places) ++ '.' :: ds.drop (ds.length - places)

/-- A number with `places` digits behind the point. -/
def fixed (places : Nat) (r : Reading) : String := withSign [] (fixedMagnitude places) r

/-- A number with `places` digits behind the point and always a sign. -/
def signedFixed (places : Nat) (r : Reading) : String := withSign ['+'] (fixedMagnitude places) r

end PatchTrial.Decimal
