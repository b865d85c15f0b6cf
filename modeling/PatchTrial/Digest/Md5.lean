import PatchTrial.Digest

/-!
MD5 digests.

Words are written with their lowest byte first. Each block of 64 bytes goes through four rounds of
sixteen operations.
-/
namespace PatchTrial.Digest

namespace Md5

/-- The word that is added in each operation. -/
def addends : List UInt32 := [
  0xd76aa478, 0xe8c7b756, 0x242070db, 0xc1bdceee, 0xf57c0faf, 0x4787c62a, 0xa8304613, 0xfd469501,
  0x698098d8, 0x8b44f7af, 0xffff5bb1, 0x895cd7be, 0x6b901122, 0xfd987193, 0xa679438e, 0x49b40821,
  0xf61e2562, 0xc040b340, 0x265e5a51, 0xe9b6c7aa, 0xd62f105d, 0x02441453, 0xd8a1e681, 0xe7d3fbc8,
  0x21e1cde6, 0xc33707d6, 0xf4d50d87, 0x455a14ed, 0xa9e3e905, 0xfcefa3f8, 0x676f02d9, 0x8d2a4c8a,
  0xfffa3942, 0x8771f681, 0x6d9d6122, 0xfde5380c, 0xa4beea44, 0x4bdecfa9, 0xf6bb4b60, 0xbebfbc70,
  0x289b7ec6, 0xeaa127fa, 0xd4ef3085, 0x04881d05, 0xd9d4d039, 0xe6db99e5, 0x1fa27cf8, 0xc4ac5665,
  0xf4292244, 0x432aff97, 0xab9423a7, 0xfc93a039, 0x655b59c3, 0x8f0ccc92, 0xffeff47d, 0x85845dd1,
  0x6fa87e4f, 0xfe2ce6e0, 0xa3014314, 0x4e0811a1, 0xf7537e82, 0xbd3af235, 0x2ad7d2bb, 0xeb86d391]

/-- By how many bits is rotated in the operations of each round. -/
def rotations : List UInt32 :=
  [[7, 12, 17, 22], [5, 9, 14, 20], [4, 11, 16, 23], [6, 10, 15, 21]].flatMap fun r =>
    (List.replicate 4 r).flatten

/-- Four words. -/
structure State where
  a : UInt32
  b : UInt32
  c : UInt32
  d : UInt32

def initial : State := ⟨0x67452301, 0xefcdab89, 0x98badcfe, 0x10325476⟩

/-- Words with the lowest byte first. -/
def wordsOf : List UInt8 → List UInt32
  | a :: b :: c :: d :: rest => wordOf d c b a :: wordsOf rest
  | _ => []

/-- The function of a round, and the word of the block that an operation takes in. -/
def mixed (s : State) (i : Nat) : UInt32 × Nat :=
  match i / 16 with
  | 0 => ((s.b &&& s.c) ||| (~~~s.b &&& s.d), i)
  | 1 => ((s.d &&& s.b) ||| (~~~s.d &&& s.c), (5 * i + 1) % 16)
  | 2 => (s.b ^^^ s.c ^^^ s.d, (3 * i + 5) % 16)
  | _ => (s.c ^^^ (s.b ||| ~~~s.d), 7 * i % 16)

/-- One operation, with its number, its addend and its rotation. -/
def operate (block : List UInt32) (s : State) (x : Nat × UInt32 × UInt32) : State :=
  let (i, addend, turn) := x
  let (f, word) := mixed s i
  ⟨s.d, s.b + rotateRight (s.a + f + addend + block.getD word 0) (32 - turn), s.b, s.c⟩

/-- Take in a block of sixteen words. -/
def compress (s : State) (block : List UInt32) : State :=
  let operations := (List.range 64).zip (addends.zip rotations)
  let t := operations.foldl (operate block) s
  ⟨s.a + t.a, s.b + t.b, s.c + t.c, s.d + t.d⟩

def compressAll : Nat → State → List UInt32 → State
  | 0, s, _ => s
  | n + 1, s, ws => compressAll n (compress s (ws.take 16)) (ws.drop 16)

/-- A message padded to whole blocks. -/
def padding (message : List UInt8) : List UInt8 :=
  let n := message.length
  message ++ 0x80 :: List.replicate ((119 - n % 64) % 64) 0 ++ (bytesOf 8 (8 * n)).reverse

end Md5

/-- The MD5 digest of a message in lower-case hexadecimal digits. -/
def md5 (message : ByteArray) : String :=
  let padded := Md5.padding message.toList
  let s := Md5.compressAll (padded.length / 64) Md5.initial (Md5.wordsOf padded)
  let bytes := [s.a, s.b, s.c, s.d].flatMap fun w => (bytesOf 4 w.toNat).reverse
  hex bytes

end PatchTrial.Digest
