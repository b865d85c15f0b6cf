import PatchTrial.Decimal.Layout
import PatchTrial.Json.Decode

/-!
The numbers that benchmarks are measured in.

Comparing and judging benchmarks needs only what this class offers, so the same definitions run on
doubles and, for exact statements, on any other ordered numbers.
-/
namespace PatchTrial

class Quantity (α : Type) where
  zero : α
  neg : α → α
  sub : α → α → α
  div : α → α → α
  abs : α → α
  /-- One with the sign of a number other than zero. -/
  signum : α → α
  lt : α → α → Bool
  le : α → α → Bool
  isZero : α → Bool
  isFinite : α → Bool
  /-- Changes no larger than this count as none. -/
  epsilon : α
  hundredfold : α → α
  ofNumber : Json.Number → α
  ofNumeral : Decimal.Numeral → α
  ofMillis : UInt64 → α
  /-- The shortest text, without an exponent. -/
  text : α → String
  /-- The text with one digit behind the point. -/
  oneDigit : α → String
  /-- The text with one digit behind the point and always a sign. -/
  signedOneDigit : α → String

instance : Quantity Float where
  zero := 0
  neg x := -x
  sub x y := x - y
  div x y := x / y
  abs x := x.abs
  signum x := if x > 0 then 1 else -1
  lt x y := x < y
  le x y := x ≤ y
  isZero x := x == 0
  isFinite x := x.isFinite
  epsilon := Float.ofBits 0x3CB0000000000000
  hundredfold x := x * 100
  ofNumber := Json.Number.toFloat
  ofNumeral := Decimal.Numeral.toFloat
  ofMillis n := n.toFloat
  text x := Decimal.Layout.plain.text (Decimal.ofFloat x)
  oneDigit x := Decimal.fixed 1 (Decimal.ofFloat x)
  signedOneDigit x := Decimal.signedFixed 1 (Decimal.ofFloat x)

end PatchTrial
