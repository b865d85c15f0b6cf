/-!
Bytes as text.

Well-formed UTF-8 is read as it stands. Elsewhere each longest run of bytes that could still begin
a character, or a single byte that cannot, becomes one U+FFFD.

An octet text holds bytes, each as the character with its number, so that what works byte by byte
can be written for texts. A text becomes one by its UTF-8 encoding.
-/
namespace PatchTrial.Text

/-- The replacement character. -/
def replacement : Char := '\uFFFD'

/-- Bytes a character needs after its first byte, with the range of the second byte; later ones lie
in 80 to BF. `none` for a byte that begins no character. -/
def leadByte (b : UInt8) : Option (Nat × UInt8 × UInt8) :=
  if b ≤ 0x7F then some (0, 0x80, 0xBF)
  else if 0xC2 ≤ b && b ≤ 0xDF then some (1, 0x80, 0xBF)
  else if b == 0xE0 then some (2, 0xA0, 0xBF)
  else if b == 0xED then some (2, 0x80, 0x9F)
  else if 0xE1 ≤ b && b ≤ 0xEF then some (2, 0x80, 0xBF)
  else if b == 0xF0 then some (3, 0x90, 0xBF)
  else if 0xF1 ≤ b && b ≤ 0xF3 then some (3, 0x80, 0xBF)
  else if b == 0xF4 then some (3, 0x80, 0x8F)
  else none

/-- The payload of a first byte that `need` further bytes follow. -/
def leadBits (need : Nat) (b : UInt8) : Nat :=
  match need with
  | 0 => b.toNat
  | 1 => b.toNat % 0x20
  | 2 => b.toNat % 0x10
  | _ => b.toNat % 0x08

/-- A character under way: bytes still due, the range of the next one, and the bits so far. -/
structure Unfinished where
  need : Nat
  lo : UInt8
  hi : UInt8
  bits : Nat

/-- Begin a character at `b`: what is complete at once, and what is under way. -/
def beginChar (b : UInt8) : List Char × Option Unfinished :=
  match leadByte b with
  | none => ([replacement], none)
  | some (0, _) => ([Char.ofNat b.toNat], none)
  | some (n + 1, lo, hi) => ([], some ⟨n + 1, lo, hi, leadBits (n + 1) b⟩)

/-- Decode bytes, the character under way given. -/
def decodeLossyFrom : Option Unfinished → List UInt8 → List Char
  | none, [] => []
  | some _, [] => [replacement]
  | none, b :: bs =>
    let (out, next) := beginChar b
    out ++ decodeLossyFrom next bs
  | some p, b :: bs =>
    if p.lo ≤ b && b ≤ p.hi then
      let bits := p.bits * 64 + b.toNat % 64
      if p.need ≤ 1 then Char.ofNat bits :: decodeLossyFrom none bs
      else decodeLossyFrom (some ⟨p.need - 1, 0x80, 0xBF, bits⟩) bs
    else
      let (out, next) := beginChar b
      replacement :: out ++ decodeLossyFrom next bs

/-- Bytes as text, each malformed part replaced. -/
def decodeLossy (bytes : ByteArray) : String :=
  match String.fromUTF8? bytes with
  | some s => s
  | none => String.ofList (decodeLossyFrom none bytes.toList)

/-- The bytes that a list of characters takes in UTF-8. -/
def byteLength (cs : List Char) : Nat := cs.foldl (fun n c => n + c.utf8Size) 0

/-- Drop characters until the rest, `size` bytes long at first, takes at most `max` bytes. -/
def dropTo (max : Nat) : Nat → List Char → List Char
  | _, [] => []
  | size, c :: cs => if size ≤ max then c :: cs else dropTo max (size - c.utf8Size) cs

/-- The longest end of a text that takes at most `max` bytes. -/
def tail (max : Nat) (cs : List Char) : List Char := dropTo max (byteLength cs) cs

end PatchTrial.Text

namespace PatchTrial

/-- The longest end of `s` that takes at most `max` bytes. -/
def tailOf (s : String) (max : Nat) : String := String.ofList (Text.tail max s.toList)

end PatchTrial

namespace PatchTrial.Octets

/-- The octets of bytes. -/
def ofBytes (bytes : ByteArray) : List Char := bytes.toList.map fun b => Char.ofNat b.toNat

/-- The bytes of octets. -/
def toBytes (cs : List Char) : ByteArray := ⟨(cs.map fun c => UInt8.ofNat c.toNat).toArray⟩

def isAscii (s : String) : Bool := s.all fun (c : Char) => decide (c.toNat < 128)

/-- The octets of a text. -/
def ofText (s : String) : String := if isAscii s then s else String.ofList (ofBytes s.toUTF8)

/-- The text that octets encode, as far as they do. -/
def toText (s : String) : String := if isAscii s then s else Text.decodeLossy (toBytes s.toList)

end PatchTrial.Octets
