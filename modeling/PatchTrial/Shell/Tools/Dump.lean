import PatchTrial.Decimal.Directive
import PatchTrial.Shell.Tools.Options

/-!
Texts as numbers and in letters: dumps of octets, and the encodings in 64 and in 32 letters.
-/
namespace PatchTrial.Shell.Tools

open Quoting (always ifNeeded)

/-! ### Dumps -/

namespace Dump

/-- How the octets of a dump are shown. -/
inductive Kind where
  /-- Characters, those that cannot be printed as escapes. -/
  | char
  /-- Characters, those that cannot be printed by their names. -/
  | named
  | signed
  | octal
  | unsigned
  | hex
  | float
  deriving DecidableEq, Repr

/-- One way to show octets: so many of them make one number. -/
structure Form where
  kind : Kind
  size : Nat
  /-- Whether the characters are shown at the end of the line. -/
  trailer : Bool := false
  deriving Repr

/-- The names of the first characters. -/
def charNames : List String :=
  ["nul", "soh", "stx", "etx", "eot", "enq", "ack", "bel", "bs", "ht", "nl", "vt", "ff", "cr", "so",
    "si", "dle", "dc1", "dc2", "dc3", "dc4", "nak", "syn", "etb", "can", "em", "sub", "esc", "fs",
    "gs", "rs", "us", "sp"]

/-- The width of one number, without the blank before it. -/
def Form.width (f : Form) : Nat :=
  let pick (a b c d : Nat) : Nat :=
    if f.size = 1 then a else if f.size = 2 then b else if f.size = 4 then c else d
  match f.kind with
  | .char => 3
  | .named => 3
  | .signed => pick 4 6 11 20
  | .octal => pick 3 6 11 22
  | .unsigned => pick 3 5 10 20
  | .hex => pick 2 4 8 16
  | .float => if f.size = 4 then 15 else 24

/-- The fewest digits that read back. -/
def floatText (r : Decimal.Reading) : List Char :=
  let precision : Option Nat := match r with
    | .finite b => if b.mantissa = 0 then none else some b.shortest.digits.length
    | _ => none
  Decimal.Directive.float { kind := 'g', precision } r

/-- The text of one number, whose octets are given in ascending order. -/
def Form.text (f : Form) (octets : List Nat) : List Char :=
  let n := octets.foldr (fun o n => n * 256 + o) 0
  let filled (base : Nat) : List Char :=
    let ds := Nat.toDigits base n
    List.replicate (f.width - ds.length) '0' ++ ds
  match f.kind with
  | .char =>
    let c := Char.ofNat n
    let named := [
      (0, '0'), (7, 'a'), (8, 'b'), (9, 't'), (10, 'n'), (11, 'v'), (12, 'f'), (13, 'r')]
    match named.lookup n with
    | some letter => ['\\', letter]
    | none => if Quoting.isPrintable c then [c] else Quoting.octalDigits n
  | .named =>
    let n := n % 128
    match charNames[n]? with
    | some name => name.toList
    | none => if n = 127 then "del".toList else [Char.ofNat n]
  | .signed =>
    let half := Nat.pow 256 f.size / 2
    (toString (if half ≤ n then (n : Int) - (Nat.pow 256 f.size : Nat) else n)).toList
  | .octal => filled 8
  | .unsigned => (toString n).toList
  | .hex => filled 16
  | .float =>
    floatText ((if f.size = 4 then Decimal.Format.single else Decimal.Format.double).read n)

/-- Lists of so many elements. -/
def groups {α : Type} (size : Nat) : Nat → List α → List (List α)
  | 0, _ => []
  | fuel + 1, xs =>
    if xs.isEmpty then [] else xs.take size :: groups size fuel (xs.drop size)

/-- One line of a dump, in one form, for so many octets. `widest` is the width that the widest form
needs. -/
def Form.line (f : Form) (bigEndian : Bool) (perLine widest : Nat) (octets : List Nat) :
    List Char :=
  let fields := perLine / f.size
  let padding := widest - fields * f.width
  let numbers := (groups f.size (octets.length + 1) octets).map fun os =>
    let os := os ++ List.replicate (f.size - os.length) 0
    f.text (if bigEndian then os.reverse else os)
  -- The padding is shared out among the fields so that it adds up over a whole line.
  let before (i : Nat) : Nat :=
    padding * (fields - i) / fields - padding * (fields - i - 1) / fields
  let text := (numbers.mapIdx fun i t =>
    List.replicate (f.width + before i - t.length) ' ' ++ t).flatten
  let missing := fields - numbers.length
  let rest := missing * f.width + padding * missing / fields
  let shown := octets.map fun o =>
    let c := Char.ofNat o
    if Quoting.isPrintable c then c else '.'
  text ++ (if f.trailer then List.replicate rest ' ' ++ "  >".toList ++ shown ++ ['<'] else [])

inductive Fault where
  | badCharacter (c : Char) (type : String)
  | badSize (type : String) (size : Nat) (floating : Bool)
  | badRadix (text : String)
  | badNumber (key : String) (text : String)
  deriving DecidableEq, Repr

def Fault.message : Fault → String
  | .badCharacter c type => s!"invalid character '{c}' in type string {Quoting.text type}"
  | .badSize type size floating =>
    let what := if floating then "floating point" else "integral"
    s!"invalid type string {Quoting.text type};\nthis system doesn't provide a " ++
      s!"{size}-byte {what} type"
  | .badRadix text =>
    s!"invalid output address radix {Quoting.text text}; it must be one character from [doxn]"
  | .badNumber key text => s!"invalid -{key} argument '{text}'"

/-- Read the forms that a type names. -/
def readType (type : String) : Nat → List Char → Except Fault (List Form)
  | 0, _ => .ok []
  | _ + 1, [] => .ok []
  | fuel + 1, c :: cs => do
    let floating := c = 'f'
    let kind : Option Kind :=
      [('a', .named), ('c', .char), ('d', .signed), ('f', .float), ('o', .octal),
        ('u', .unsigned), ('x', .hex)].lookup c
    match kind with
    | none => .error (.badCharacter c type)
    | some kind =>
      let sized := !(kind == .named || kind == .char)
      let (size, rest) : Nat × List Char :=
        if !sized then (1, cs)
        else
          let letters := if floating then [('F', 4), ('D', 8), ('L', 16)]
            else [('C', 1), ('S', 2), ('I', 4), ('L', 8)]
          match cs with
          | [] => (if floating then 8 else 4, [])
          | d :: rest =>
            match letters.lookup d with
            | some n => (n, rest)
            | none =>
              let ds := cs.takeWhile Char.isDigit
              if ds.isEmpty then (if floating then 8 else 4, cs)
              else (Nat.ofDigitChars 10 ds 0, cs.drop ds.length)
      let known := if !sized then [1] else if floating then [4, 8] else [1, 2, 4, 8]
      if !known.contains size then .error (.badSize type size floating)
      else
        let trailer := rest.head? = some 'z'
        let rest := if trailer then rest.drop 1 else rest
        return ⟨kind, size, trailer⟩ :: (← readType type fuel rest)

/-- The forms that the options name, in their order. -/
def readForms (o : Options) : Except Fault (List Form) := do
  let plain : List (String × Form) :=
    [("a", ⟨.named, 1, false⟩), ("b", ⟨.octal, 1, false⟩), ("c", ⟨.char, 1, false⟩),
      ("d", ⟨.unsigned, 2, false⟩), ("f", ⟨.float, 4, false⟩), ("h", ⟨.hex, 2, false⟩),
      ("i", ⟨.signed, 4, false⟩), ("l", ⟨.signed, 8, false⟩), ("o", ⟨.octal, 2, false⟩),
      ("s", ⟨.signed, 2, false⟩), ("x", ⟨.hex, 2, false⟩), ("B", ⟨.octal, 2, false⟩),
      ("D", ⟨.unsigned, 4, false⟩), ("F", ⟨.float, 8, false⟩), ("H", ⟨.hex, 4, false⟩),
      ("I", ⟨.signed, 8, false⟩), ("L", ⟨.signed, 8, false⟩), ("O", ⟨.octal, 4, false⟩),
      ("X", ⟨.hex, 4, false⟩)]
  let found ← o.given.mapM fun (key, value) =>
    if key = "t" then
      let type := value.getD ""
      readType type (type.length + 1) type.toList
    else .ok ((plain.lookup key).toList)
  return if found.flatten.isEmpty then [⟨.octal, 2, false⟩] else found.flatten

/-- The address of a line. -/
def address (radix : Char) (n : Nat) : List Char :=
  let filled (width base : Nat) : List Char :=
    let ds := Nat.toDigits base n
    List.replicate (width - ds.length) '0' ++ ds
  match radix with
  | 'd' => filled 7 10
  | 'x' => filled 6 16
  | 'n' => []
  | _ => filled 7 8

/-- The lines of a dump. Lines equal to the one before are left out, with a star in their stead. -/
def dumpLines (show' : Nat → List Nat → List Char) (all : Bool) (perLine : Nat) :
    Nat → Nat → Option (List Nat) → Bool → List Nat → List (List Char)
  | 0, _, _, _, _ => []
  | fuel + 1, at', last, starred, octets =>
    if octets.isEmpty then []
    else
      let line := octets.take perLine
      let rest := octets.drop perLine
      if !all && line.length = perLine && last = some line then
        (if starred then [] else ["*\n".toList]) ++
          dumpLines show' all perLine fuel (at' + perLine) last true rest
      else show' at' line :: dumpLines show' all perLine fuel (at' + perLine) (some line) false rest

end Dump

def od : Tool := fun args =>
  withOptions "od"
    ("A|address-radix: j|skip-bytes: N|read-bytes: S|strings? t|format: " ++
      "v|output-duplicates w|width? endian: traditional a b c d f h i l o s x B D F H I L O X")
    args fun o => do
      let radix := (o.value? "A").getD "o"
      let number (key : String) : Except Dump.Fault (Option Nat) :=
        match o.value? key with
        | none => .ok none
        | some text =>
          match size? text with
          | some n => .ok (some n)
          | none => .error (.badNumber key text)
      let request : Except Dump.Fault (List Dump.Form × Option Nat × Option Nat) := do
        if !(["d", "o", "x", "n"].contains radix) then throw (.badRadix radix)
        return (← Dump.readForms o, ← number "j", ← number "N")
      match request with
      | .error fault => fail "od" fault.message
      | .ok (forms, skip, most) => do
        let mut status := 0
        let mut failed := 0
        let mut all : List Char := []
        let paths := if o.operands.isEmpty then ["-"] else o.operands
        for path in paths do
          match ← contentOf path with
          | .error e =>
            status ← fail "od" s!"{ifNeeded path}: {e.words}"
            failed := failed + 1
          | .ok content => all := all ++ content
        if failed = paths.length then return status
        let start := skip.getD 0
        if all.length < start then
          return ← fail "od" "cannot skip past end of combined input"
        let text := all.drop start
        let octets := (match most with
          | some n => text.take n
          | none => text).map Char.toNat
        let multiple := forms.foldl (fun n f => max n f.size) 1
        let perLine := match o.given.reverse.find? (·.1 = "w") with
          | some (_, some text) => (natural? text).getD 32
          | some (_, none) => 32
          | none => 16
        let perLine := if perLine % multiple = 0 && perLine ≠ 0 then perLine else multiple
        let widest := forms.foldl (fun n f => max n ((f.width + 1) * (perLine / f.size))) 0
        let address := Dump.address (radix.toList.headD 'o')
        let lead := (address 0).length
        let line (at' : Nat) (octets : List Nat) : List Char :=
          (forms.mapIdx fun i f =>
            (if i = 0 then address at' else List.replicate lead ' ') ++
              f.line (o.value? "endian" = some "big") perLine widest octets ++ ['\n']).flatten
        emit (Dump.dumpLines line (o.has "v") perLine (octets.length + 1) start none false
          octets).flatten
        if radix ≠ "n" then emit (address (start + octets.length) ++ ['\n'])
        return status

/-! ### Letters -/

namespace Letters

/-- An encoding: its letters, how many bits each of them holds, and how many make a group. -/
structure Alphabet where
  letters : Array Char
  bits : Nat
  group : Nat

def base64 : Alphabet :=
  ⟨"ABCDEFGHIJKLMNOPQRSTUVWXYZabcdefghijklmnopqrstuvwxyz0123456789+/".toList.toArray, 6, 4⟩

def base32 : Alphabet := ⟨"ABCDEFGHIJKLMNOPQRSTUVWXYZ234567".toList.toArray, 5, 8⟩

namespace Alphabet

variable (a : Alphabet)

def value? (c : Char) : Option Nat := a.letters.toList.idxOf? c

/-- How many octets make a group. -/
def octets : Nat := a.bits * a.group / 8

def encodeGroup (octets : List Char) : List Char :=
  let total := octets.foldl (fun n c => n * 256 + c.toNat) 0 *
    Nat.pow 256 (a.octets - octets.length)
  let used := (octets.length * 8 + a.bits - 1) / a.bits
  (List.range a.group).map fun i =>
    if i < used then
      a.letters[total / Nat.pow 2 (a.bits * (a.group - 1 - i)) % Nat.pow 2 a.bits]?.getD '='
    else '='

def encode (text : List Char) : List Char :=
  (Dump.groups a.octets (text.length + 1) text).flatMap a.encodeGroup

/-- The octets of a group, and whether it is valid. -/
def decodeGroup (cs : List Char) : List Char × Bool :=
  let letters := cs.takeWhile fun c => (a.value? c).isSome
  let padding := cs.drop letters.length
  let total := letters.foldl (fun n c => n * Nat.pow 2 a.bits + (a.value? c).getD 0) 0
  let bits := letters.length * a.bits
  let count := bits / 8
  let octets := (List.range count).map fun i =>
    Char.ofNat (total / Nat.pow 2 (bits - 8 * (i + 1)) % 256)
  let fits := (count * 8 + a.bits - 1) / a.bits = letters.length
  let valid := cs.length = a.group && padding.all (· == '=') && letters.length ≠ 0 && fits
  (if valid || (a.group = 4 && !padding.contains '=') then octets else [], valid)

/-- The octets up to the first group that is not valid, and whether there is none. -/
def decode (cs : List Char) : List Char × Bool :=
  (Dump.groups a.group (cs.length + 1) cs).foldl (fun (out, ok) group =>
    if !ok then (out, ok)
    else
      let (octets, valid) := a.decodeGroup group
      (out ++ octets, valid)) ([], true)

end Alphabet

end Letters

/-- Encode or decode a text. -/
def encoder (tool : String) (a : Letters.Alphabet) : Tool := fun args =>
  withOptions tool "d|decode i|ignore-garbage w|wrap:" args fun o => do
    let wrap := (o.value? "w").getD "76"
    match natural? wrap, o.operands with
    | none, _ => fail tool s!"invalid wrap size: {Quoting.text wrap}"
    | _, _ :: extra :: _ => misuse tool s!"extra operand {Quoting.text extra}"
    | some width, paths => do
      let path := paths.headD "-"
      match ← contentOf path with
      | .error e => fail tool s!"{ifNeeded path}: {e.words}"
      | .ok text =>
        if o.has "d" then
          let kept := text.filter fun c =>
            if o.has "i" then (a.value? c).isSome || c = '=' else c != '\n'
          let (out, ok) := a.decode kept
          emit out
          if ok then return 0 else fail tool "invalid input"
        else
          let code := a.encode text
          emit (if width = 0 then code
            else joinLines (Dump.groups width (code.length + 1) code))
          return 0

end PatchTrial.Shell.Tools
