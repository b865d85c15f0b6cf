import PatchTrial.Digest

/-!
SHA-1 digests.

A block of sixteen words is expanded to eighty, which go through four rounds of twenty operations.
-/
namespace PatchTrial.Digest

namespace Sha1

/-- Five words. -/
structure State where
  a : UInt32
  b : UInt32
  c : UInt32
  d : UInt32
  e : UInt32

def initial : State := ⟨0x67452301, 0xefcdab89, 0x98badcfe, 0x10325476, 0xc3d2e1f0⟩

def rotateLeft (x : UInt32) (n : UInt32) : UInt32 := rotateRight x (32 - n)

/-- Words, the latest first, extended by `n` more words. -/
def expand : Nat → List UInt32 → List UInt32
  | 0, ws => ws
  | n + 1, ws =>
    let w (i : Nat) := ws.getD (i - 1) 0
    expand n (rotateLeft (w 3 ^^^ w 8 ^^^ w 14 ^^^ w 16) 1 :: ws)

/-- One operation with its number and its word. -/
def operate (s : State) (x : UInt32 × Nat) : State :=
  let (word, i) := x
  let (f, constant) : UInt32 × UInt32 := match i / 20 with
    | 0 => ((s.b &&& s.c) ||| (~~~s.b &&& s.d), 0x5a827999)
    | 1 => (s.b ^^^ s.c ^^^ s.d, 0x6ed9eba1)
    | 2 => ((s.b &&& s.c) ||| (s.b &&& s.d) ||| (s.c &&& s.d), 0x8f1bbcdc)
    | _ => (s.b ^^^ s.c ^^^ s.d, 0xca62c1d6)
  ⟨rotateLeft s.a 5 + f + s.e + constant + word, s.a, rotateLeft s.b 30, s.c, s.d⟩

/-- Take in a block of sixteen words. -/
def compress (s : State) (block : List UInt32) : State :=
  let t := ((expand 64 block.reverse).reverse.zipIdx).foldl operate s
  ⟨s.a + t.a, s.b + t.b, s.c + t.c, s.d + t.d, s.e + t.e⟩

def compressAll : Nat → State → List UInt32 → State
  | 0, s, _ => s
  | n + 1, s, ws => compressAll n (compress s (ws.take 16)) (ws.drop 16)

end Sha1

/-- The SHA-1 digest of a message in lower-case hexadecimal digits. -/
def sha1 (message : ByteArray) : String :=
  let padded := padding message.toList
  let s := Sha1.compressAll (padded.length / 64) Sha1.initial (wordsOf padded)
  hex ([s.a, s.b, s.c, s.d, s.e].flatMap fun w => bytesOf 4 w.toNat)

end PatchTrial.Digest
