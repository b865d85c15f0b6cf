/-!
Floating-point numbers as exact binary fractions.

A finite number is a natural multiple of a power of two. Formats differ only in the bits of their
fraction and of their exponent, so one record serves the numbers of both widths in use here.
-/
namespace PatchTrial.Decimal

/-- How many bits of a floating-point number hold its fraction and its exponent. -/
structure Format where
  fraction : Nat
  exponent : Nat

namespace Format

def double : Format := ⟨52, 11⟩

def single : Format := ⟨23, 8⟩

/-- The least exponent, that of the numbers next to zero. -/
def least (f : Format) : Int := 2 - Nat.pow 2 (f.exponent - 1) - f.fraction

/-- The bits of the positive infinite number. -/
def infinityBits (f : Format) : Nat := (Nat.pow 2 f.exponent - 1) * Nat.pow 2 f.fraction

end Format

/-- A finite number `±mantissa · 2 ^ exponent` together with its rounding interval: `lowerGap`
quarters of a unit down to the midpoint below it, two quarters up to the one above. -/
structure Binary where
  negative : Bool
  mantissa : Nat
  exponent : Int
  lowerGap : Nat
  deriving Repr

/-- What a bit pattern stands for. -/
inductive Reading where
  | finite (b : Binary)
  | infinite (negative : Bool)
  | notANumber
  deriving Repr

/-- Read the bits of a number. -/
def Format.read (f : Format) (bits : Nat) : Reading :=
  let frac := bits % Nat.pow 2 f.fraction
  let field := bits / Nat.pow 2 f.fraction % Nat.pow 2 f.exponent
  let negative := bits / Nat.pow 2 (f.fraction + f.exponent) % 2 == 1
  if field = Nat.pow 2 f.exponent - 1 then
    if frac = 0 then .infinite negative else .notANumber
  else if field = 0 then .finite ⟨negative, frac, f.least, 2⟩
  else .finite ⟨negative, Nat.pow 2 f.fraction + frac, f.least + field - 1,
    if frac = 0 && field > 1 then 1 else 2⟩

def ofFloat (x : Float) : Reading := Format.double.read x.toBits.toNat

def ofFloat32 (x : Float32) : Reading := Format.single.read x.toBits.toNat

end PatchTrial.Decimal
