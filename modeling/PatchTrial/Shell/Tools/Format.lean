import PatchTrial.Decimal.Directive
import PatchTrial.Shell.Tools.Options

/-!
Texts made of arguments by a format, and the escapes in them.

A format is gone through again and again until no argument is left; a missing argument counts as an
empty text. What the shell and the tool outside of it understand differs a little, which is their
`Dialect`.
-/
namespace PatchTrial.Shell.Tools

/-! ### Escapes -/

/-- Up to so many octal digits and the number they stand for. -/
def octal (most : Nat) (cs : List Char) : Nat × List Char :=
  let ds := (cs.take most).takeWhile fun c => '0' ≤ c && c ≤ '7'
  (ds.foldl (fun n c => n * 8 + (c.toNat - '0'.toNat)) 0, cs.drop ds.length)

/-- The octet with a number, which counts modulo their number. -/
def octet (n : Nat) : Char := Char.ofNat (n % 256)

/-- What an escape stands for. -/
inductive Escape where
  | text (cs : List Char)
  /-- All output ends here. -/
  | ending
  /-- An escape for a number without digits. -/
  | unfinished
  deriving DecidableEq, Repr

/-- The character that a letter behind a backslash stands for. -/
def escapeOf? (c : Char) : Option Char :=
  match c with
  | '\\' => some '\\'
  | 'a' => some (octet 7)
  | 'b' => some (octet 8)
  | 'e' => some (octet 27)
  | 'f' => some (octet 12)
  | 'n' => some '\n'
  | 'r' => some '\r'
  | 't' => some '\t'
  | 'v' => some (octet 11)
  | _ => none

/-- What stands behind a backslash in a format: an octal number or a letter. An unknown escape
stands for itself. -/
def shortEscape (cs : List Char) : Escape × List Char :=
  match cs with
  | [] => (.text ['\\'], [])
  | c :: rest =>
    if '0' ≤ c && c ≤ '7' then
      let (n, rest) := octal 3 cs
      (.text [octet n], rest)
    else
      match escapeOf? c with
      | some c => (.text [c], rest)
      | none => (.text ['\\'], cs)

/-- What stands behind a backslash in a text: also the end of all output, and an octal number with
a zero before it. -/
def textEscape (cs : List Char) : Escape × List Char :=
  match cs with
  | 'c' :: rest => (.ending, rest)
  | '0' :: rest =>
    let (n, rest) := octal 3 rest
    (.text [octet n], rest)
  | cs => shortEscape cs

def hexDigit? (c : Char) : Option Nat :=
  if c.isDigit then some (c.toNat - '0'.toNat)
  else if 'a' ≤ c.toLower && c.toLower ≤ 'f' then some (c.toLower.toNat - 'a'.toNat + 10)
  else none

/-- Up to so many hexadecimal digits, the number that they stand for, and the rest. -/
def hexadecimal (most : Nat) (cs : List Char) : Nat × Nat × List Char :=
  let ds := ((cs.take most).takeWhile fun c => (hexDigit? c).isSome).filterMap hexDigit?
  (ds.length, ds.foldl (fun n d => n * 16 + d) 0, cs.drop ds.length)

/-- An escape as tools know it: also a hexadecimal number, a code point and a double quote. -/
def longEscape (base : List Char → Escape × List Char) (cs : List Char) : Escape × List Char :=
  let numbered (most : Nat) (rest : List Char) (show_ : Nat → List Char) : Escape × List Char :=
    let (count, n, rest) := hexadecimal most rest
    if count = 0 then (.unfinished, rest) else (.text (show_ n), rest)
  let codePoint (digits : Nat) (letter : Char) (n : Nat) : List Char :=
    if n < 128 then [Char.ofNat n]
    else
      let ds := (Nat.toDigits 16 n).map Char.toUpper
      '\\' :: letter :: (List.replicate (digits - ds.length) '0' ++ ds)
  match cs with
  | 'c' :: rest => (.ending, rest)
  | '"' :: rest => (.text ['"'], rest)
  | 'x' :: rest => numbered 2 rest fun n => [octet n]
  | 'u' :: rest => numbered 4 rest (codePoint 4 'u')
  | 'U' :: rest => numbered 8 rest (codePoint 8 'U')
  | cs => base cs

/-- A text with its escapes, and what cut it short, if anything. -/
def unescape (escape : List Char → Escape × List Char) : Nat → List Char → List Char × Option Escape
  | 0, _ => ([], none)
  | _ + 1, [] => ([], none)
  | fuel + 1, '\\' :: rest =>
    match escape rest with
    | (.text cs, rest) =>
      let (text, ended) := unescape escape fuel rest
      (cs ++ text, ended)
    | (e, _) => ([], some e)
  | fuel + 1, c :: rest =>
    let (text, ended) := unescape escape fuel rest
    (c :: text, ended)

def unescapeText (escape : List Char → Escape × List Char) (s : String) :
    List Char × Option Escape :=
  unescape escape (s.length + 1) s.toList

/-! ### Numbers -/

/-- The number at the start of a text in decimal, octal or hexadecimal notation, with the rest. -/
def readInteger? (cs : List Char) : Option (Int × List Char) :=
  let (negative, cs) : Bool × List Char := match cs with
    | '-' :: cs => (true, cs)
    | '+' :: cs => (false, cs)
    | cs => (false, cs)
  let digit (c : Char) : Nat := (hexDigit? c).getD 99
  let read (base : Nat) (cs : List Char) : Option (Int × List Char) :=
    let (ds, rest) := cs.span fun c => digit c < base
    let n : Int := ds.foldl (fun n c => n * base + digit c) (0 : Nat)
    if ds.isEmpty then none else some (if negative then -n else n, rest)
  match cs with
  | '0' :: x :: d :: ds =>
    if (x = 'x' || x = 'X') && digit d < 16 then read 16 (d :: ds) else read 8 cs
  | '0' :: _ => read 8 cs
  | _ => read 10 cs

/-- What can be wrong with an argument that should be a number, or with a format. -/
inductive FormatFault where
  /-- Something stands behind the number. -/
  | partly (arg : String)
  | outOfRange (arg : String)
  | nothing (arg : String)
  /-- A quote has more than one character behind it. -/
  | behindQuote (rest : String)
  | noKind (directive : String)
  | unknownKind (directive : String)
  | unfinished
  deriving DecidableEq, Repr

/-- Whether a fault keeps a format from going on. -/
def FormatFault.isFatal : FormatFault → Bool
  | .noKind _ => true
  | .unknownKind _ => true
  | .unfinished => true
  | _ => false

/-- What an argument is worth as a number. -/
inductive Worth (α : Type) where
  | whole (x : α)
  /-- A number with something behind it. -/
  | partly (x : α)
  | outOfRange (x : α)
  | nothing

namespace Worth

variable {α : Type}

def value (zero : α) : Worth α → α
  | whole x => x
  | partly x => x
  | outOfRange x => x
  | nothing => zero

/-- What is wrong with an argument, if anything. -/
def fault? (arg : String) : Worth α → Option FormatFault
  | whole _ => none
  | partly _ => some (.partly arg)
  | outOfRange _ => some (.outOfRange arg)
  | nothing => some (.nothing arg)

end Worth

/-- The code of the character behind a quote. -/
def quotedCode? (arg : String) : Option Nat :=
  match arg.toList with
  | '\'' :: cs => some (cs.headD (Char.ofNat 0)).toNat
  | '"' :: cs => some (cs.headD (Char.ofNat 0)).toNat
  | _ => none

/-- What is too much behind a quote. -/
def quoteFault? (arg : String) : Option FormatFault :=
  if (quotedCode? arg).isSome && 2 < arg.length then some (.behindQuote (arg.drop 2).toString)
  else none

def isSpace (c : Char) : Bool := c == ' ' || (9 ≤ c.toNat && c.toNat ≤ 13)

/-- An argument as a whole number between bounds. -/
def integerWorth (least most : Int) (arg : String) : Worth Int :=
  match quotedCode? arg with
  | some n => .whole n
  | none =>
    if arg.isEmpty then .whole 0
    else
      match readInteger? (arg.toList.dropWhile isSpace) with
      | none => .nothing
      | some (n, rest) =>
        if !rest.isEmpty then .partly (max least (min most n))
        else if n < least then .outOfRange least
        else if most < n then .outOfRange most
        else .whole n

/-- An argument as a floating-point number. -/
def floatWorth (arg : String) : Worth Float :=
  match quotedCode? arg with
  | some n => .whole n.toFloat
  | none =>
    if arg.isEmpty then .whole 0.0
    else
      match Decimal.readNumeral? (arg.toList.dropWhile isSpace) with
      | none => .nothing
      | some (x, rest) => if rest.isEmpty then .whole x else .partly x

/-! ### Formats -/

/-- What a format may hold. -/
structure Dialect where
  /-- What stands behind a backslash in the format. -/
  escape : List Char → Escape × List Char
  /-- What stands behind a backslash in an argument that may have escapes. -/
  escapeInText : List Char → Escape × List Char
  /-- The kinds of directives. -/
  kinds : String
  /-- Letters before a kind that make no difference. -/
  sizes : String

/-- What the shell understands. -/
def Dialect.shell : Dialect := ⟨shortEscape, textEscape, "diouxXcsbaAeEfFgG", ""⟩

/-- What the tool understands. -/
def Dialect.tool : Dialect :=
  ⟨longEscape shortEscape, longEscape textEscape, "diouxXcsbaAeEfFgGq", "hlLjzt"⟩

/-- What a pass over a format gives. -/
structure Printed where
  /-- What was printed, the latest first. -/
  out : List (List Char) := []
  args : List String
  /-- Whether an argument was taken. -/
  took : Bool := false
  ended : Bool := false
  faults : List FormatFault := []

namespace Printed

def add (p : Printed) (text : List Char) : Printed := { p with out := text :: p.out }

/-- Take the next argument, if there is one. -/
def next (p : Printed) : Option String × Printed :=
  match p.args with
  | [] => (none, p)
  | a :: rest => (some a, { p with args := rest, took := true })

def complain (p : Printed) (fault : Option FormatFault) : Printed :=
  { p with faults := p.faults ++ fault.toList }

/-- Go no further because of a fault. -/
def stop (p : Printed) (fault : FormatFault) : Printed :=
  { p.complain (some fault) with ended := true }

/-- Whether something keeps the format from going on. -/
def isBroken (p : Printed) : Bool := p.faults.any FormatFault.isFatal

def text (p : Printed) : List Char := p.out.reverse.flatten

/-- Take an argument as a whole number. -/
def nextInteger (p : Printed) (least most : Int) : Int × Printed :=
  match p.next with
  | (none, p) => (0, p)
  | (some arg, p) =>
    let w := integerWorth least most arg
    (w.value 0, (p.complain (w.fault? arg)).complain (quoteFault? arg))

end Printed

/-- A width or precision: digits, or a star for an argument. -/
def readCount (cs : List Char) (p : Printed) : Option Int × List Char × Printed :=
  match cs with
  | '*' :: rest =>
    let (n, p) := p.nextInteger (-0x80000000) (0x80000000 - 1)
    (some n, rest, p)
  | _ =>
    let (ds, rest) := cs.span Char.isDigit
    (if ds.isEmpty then none else some (Nat.ofDigitChars 10 ds 0 : Int), rest, p)

/-- A directive after its percent sign, without its kind. -/
def readDirective (k : Dialect) (cs : List Char) (p : Printed) :
    Decimal.Directive × List Char × Printed :=
  let (d, rest) := Decimal.Directive.readFlags cs {}
  let (width, rest, p) := readCount rest p
  let d := match width with
    | some n => { d with width := n.natAbs, left := d.left || n < 0 }
    | none => d
  let skip (cs : List Char) : List Char := cs.dropWhile (k.sizes.contains ·)
  match rest with
  | '.' :: rest =>
    let (precision, rest, p) := readCount rest p
    let precision := match precision with
      | some n => if n < 0 then none else some n.toNat
      | none => some 0
    ({ d with precision := precision }, skip rest, p)
  | rest => (d, skip rest, p)

/-- Print the next argument by a directive. -/
def printBy (k : Dialect) (d : Decimal.Directive) (p : Printed) : Printed :=
  let kind := d.kind
  if kind = 'd' || kind = 'i' then
    let (n, p) := p.nextInteger (-0x8000000000000000) (0x8000000000000000 - 1)
    p.add (d.signed n)
  else if "ouxX".contains kind then
    let (n, p) := p.nextInteger (-(0x10000000000000000 - 1)) (0x10000000000000000 - 1)
    p.add (d.unsigned (n % 0x10000000000000000).toNat)
  else if kind = 'c' then
    let (arg, p) := p.next
    p.add (d.padded [((arg.getD "").toList.headD (Char.ofNat 0))])
  else if kind = 's' then
    let (arg, p) := p.next
    p.add (d.text (arg.getD "").toList)
  else if kind = 'b' then
    let (arg, p) := p.next
    let (text, ended) := unescapeText k.escapeInText (arg.getD "")
    let p := p.add (d.text text)
    match ended with
    | none => p
    | some .unfinished => p.stop .unfinished
    | some _ => { p with ended := true }
  else if kind = 'q' then
    let (arg, p) := p.next
    p.add (Quoting.ifNeeded (arg.getD "")).toList
  else
    match p.next with
    | (none, p) => p.add (d.float (Decimal.ofFloat 0.0))
    | (some arg, p) =>
      let w := floatWorth arg
      (p.add (d.float (Decimal.ofFloat (w.value 0.0)))).complain (w.fault? arg)

/-- One pass over a format. -/
def pass (k : Dialect) : Nat → List Char → Printed → Printed
  | 0, _, p => p
  | _ + 1, [], p => p
  | fuel + 1, '%' :: '%' :: rest, p => pass k fuel rest (p.add ['%'])
  | fuel + 1, '%' :: rest, p =>
    match readDirective k rest p with
    | (_, [], p) => p.stop (.noKind (String.ofList rest))
    | (d, kind :: after, p) =>
      if k.kinds.contains kind then
        let p := printBy k { d with kind := kind } p
        if p.ended then p else pass k fuel after p
      else
        let directive := String.ofList (rest.take (rest.length - after.length))
        p.stop (.unknownKind directive)
  | fuel + 1, '\\' :: rest, p =>
    match k.escape rest with
    | (.text cs, rest) => pass k fuel rest (p.add cs)
    | (.ending, _) => { p with ended := true }
    | (.unfinished, _) => p.stop .unfinished
  | fuel + 1, c :: rest, p => pass k fuel rest (p.add [c])

/-- Passes over a format until no argument is left. -/
def passes (k : Dialect) : Nat → List Char → Printed → Printed
  | 0, _, p => p
  | fuel + 1, format, p =>
    let p := pass k (format.length + 1) format p
    if p.ended || p.args.isEmpty || !p.took then p else passes k fuel format p

/-- Arguments by a format. -/
def printed (k : Dialect) (format : String) (args : List String) : Printed :=
  passes k (args.length + 1) format.toList { args := args }

end PatchTrial.Shell.Tools
