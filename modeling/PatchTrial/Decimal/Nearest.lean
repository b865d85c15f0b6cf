import PatchTrial.Decimal.Binary

/-!
The floating-point number nearest to a fraction, a half going to the even neighbour.

Main statement: the bit pattern is found in exact arithmetic. The exponent is chosen so that the
quotient fills the fraction and one bit more, or is the least exponent; a quotient that rounds up to
another bit carries into the exponent field by itself.
-/
namespace PatchTrial.Decimal

/-- `num / den` rounded to the nearest natural number, a half to the even one. -/
def roundDiv (num den : Nat) : Nat :=
  let q := num / den
  let r := num % den
  if 2 * r < den then q
  else if 2 * r > den then q + 1
  else q + q % 2

/-- `a · 2 ^ e` as a fraction over a power of two. -/
def scaled (a : Nat) (e : Int) : Nat × Nat :=
  match e with
  | .ofNat k => (a * Nat.pow 2 k, 1)
  | .negSucc k => (a, Nat.pow 2 (k + 1))

/-- The exponent `q` at which the whole part of `num / den / 2 ^ q` fills the fraction and one bit
more, but not below the least one. -/
def Format.exponentOf (f : Format) (num den : Nat) : Int :=
  let q : Int := num.log2 - den.log2 - f.fraction
  let q := if (scaled den q).1 * Nat.pow 2 f.fraction > num * (scaled den q).2 then q - 1 else q
  max q f.least

/-- The bits of the number nearest to `num / den`. -/
def Format.nearestBits (f : Format) (num den : Nat) : Nat :=
  if num = 0 then 0
  else
    let q := f.exponentOf num den
    let (d, s) := scaled den q
    min f.infinityBits ((q - f.least).toNat * Nat.pow 2 f.fraction + roundDiv (num * s) d)

/-- The double nearest to `±num / den`. -/
def nearest (negative : Bool) (num den : Nat) : Float :=
  let x := Float.ofBits (UInt64.ofNat (Format.double.nearestBits num den))
  if negative then -x else x

/-- The number of single width nearest to `±num / den`. -/
def nearestSingle (negative : Bool) (num den : Nat) : Float32 :=
  let x := Float32.ofBits (UInt32.ofNat (Format.single.nearestBits num den))
  if negative then -x else x

/-- The number of single width nearest to what was read. -/
def Reading.toFloat32 : Reading → Float32
  | .finite b =>
    let (num, den) := scaled b.mantissa b.exponent
    nearestSingle b.negative num den
  | .infinite negative => if negative then -1 / 0 else 1 / 0
  | .notANumber => 0 / 0

/-- A decimal numeral `±digits · 10 ^ exponent`. -/
structure Numeral where
  negative : Bool
  digits : Nat
  exponent : Int
  deriving Repr, DecidableEq

/-- The double nearest to a numeral. Numerals beyond the range of doubles are settled without
computing their power of ten. -/
def Numeral.toFloat (n : Numeral) : Float :=
  if n.digits = 0 then nearest n.negative 0 1
  else match n.exponent with
    | .ofNat e =>
      if e > 400 then nearest n.negative (Nat.pow 10 400) 1
      else nearest n.negative (n.digits * Nat.pow 10 e) 1
    | .negSucc e =>
      if e > n.digits.log2 + 400 then nearest n.negative 0 1
      else nearest n.negative n.digits (Nat.pow 10 (e + 1))

/-- The double nearest to ten to the `k`. -/
def powerOfTen (k : Nat) : Float := nearest false (Nat.pow 10 k) 1

end PatchTrial.Decimal
