import PatchTrial.Decimal.Binary
import PatchTrial.Decimal.Nearest

/-!
The fewest decimal digits that read back as the same floating-point number.

For each number of digits the two neighbours of the value on that decimal grid are tried; the
first grid with a neighbour in the rounding interval wins, and of two such neighbours the nearer.
-/
namespace PatchTrial.Decimal

/-- A positive decimal `0.d₁d₂… · 10 ^ point`, without trailing zeros in its digits. -/
structure Digits where
  digits : List Char
  point : Int
  deriving Repr

/-- A numerator and denominator for `n · 10 ^ e`. -/
def tenScaled (n : Nat) (e : Int) : Nat × Nat :=
  match e with
  | .ofNat k => (n * Nat.pow 10 k, 1)
  | .negSucc k => (n, Nat.pow 10 (k + 1))

/-- Whether `d · 10 ^ e` rounds to `b`. The interval is measured in quarters of a unit in the last
place; its ends belong to it when the mantissa is even. -/
def Binary.covers (b : Binary) (d : Nat) (e : Int) : Bool :=
  let (n, nd) := tenScaled d e
  let (u, ud) := scaled 1 (b.exponent - 2)
  let point := n * ud
  let lo := (4 * b.mantissa - b.lowerGap) * u * nd
  let hi := (4 * b.mantissa + 2) * u * nd
  if b.mantissa % 2 = 0 then lo ≤ point && point ≤ hi else lo < point && point < hi

/-- The value of `b` as a fraction. -/
def Binary.fraction (b : Binary) : Nat × Nat := scaled b.mantissa b.exponent

/-- The least `k` with `num / den < 10 ^ k`, searched upwards. -/
def pointFrom (num den : Nat) : Nat → Int → Int
  | 0, k => k
  | fuel + 1, k =>
    let (n, d) := tenScaled 1 k
    if num * d < n * den then k else pointFrom num den fuel (k + 1)

/-- The neighbour of `b` with `n` significant digits that reads back as `b`, if there is one. -/
def Binary.onGrid? (b : Binary) (point : Int) (n : Nat) : Option Nat :=
  let e := point - n
  let (num, den) := b.fraction
  let (g, gd) := tenScaled 1 e
  let top := num * gd
  let unit := g * den
  let below := top / unit
  let rest := top % unit
  let downFits := below != 0 && b.covers below e
  let upFits := b.covers (below + 1) e
  if downFits && upFits then
    if 2 * rest < unit then some below
    else if 2 * rest > unit then some (below + 1)
    else some (below + below % 2)
  else if downFits then some below
  else if upFits then some (below + 1)
  else none

/-- Digits of `d`, of which `n` stand before the point `point`, without trailing zeros. -/
def digitsOf (d n : Nat) (point : Int) : Digits :=
  let ds := Nat.toDigits 10 d
  let kept := (ds.reverse.dropWhile (· == '0')).reverse
  ⟨kept, point + (ds.length - n : Int)⟩

/-- Try `n`, `n + 1`, … digits. Seventeen always suffice for a double. -/
def Binary.search (b : Binary) (point : Int) : Nat → Nat → Digits
  | 0, n => digitsOf (b.onGrid? point n |>.getD 0) n point
  | fuel + 1, n =>
    match b.onGrid? point n with
    | some d => digitsOf d n point
    | none => b.search point fuel (n + 1)

/-- The shortest digits of a number other than zero. -/
def Binary.shortest (b : Binary) : Digits :=
  let (num, den) := b.fraction
  let guess : Int := ((num.log2 : Int) - den.log2 - 1) * 30103 / 100000 - 1
  b.search (pointFrom num den 8 guess) 17 1

end PatchTrial.Decimal
