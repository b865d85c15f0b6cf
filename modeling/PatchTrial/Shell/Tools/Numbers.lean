import PatchTrial.Decimal.Directive
import PatchTrial.Text.CharSet
import PatchTrial.Shell.Tools.Options

/-!
Sequences of numbers, and prime factors.

The numbers of a sequence are exact decimal fractions. They are shown with as many places as the
first number and the step have.
-/
namespace PatchTrial.Shell.Tools

/-! ### Sequences -/

namespace Sequence

/-- A number as it was given. -/
structure Operand where
  /-- The value is this number divided by the power of ten for the scale. -/
  scaled : Int
  scale : Nat
  /-- How many characters it takes. -/
  width : Int
  /-- How many digits it has behind the point; none if that has no meaning. -/
  places : Option Nat
  deriving Repr

inductive Fault where
  | notNumber (text : String)
  | notANumber (text : String)
  | zeroStep (text : String)
  | formatAndWidth
  deriving DecidableEq, Repr

def Fault.message : Fault → String
  | .notNumber text => s!"invalid floating point argument: {Quoting.text text}"
  | .notANumber text => s!"invalid 'not-a-number' argument: {Quoting.text text}"
  | .zeroStep text => s!"invalid Zero increment value: {Quoting.text text}"
  | .formatAndWidth =>
    "format string may not be specified when printing equal width strings"

/-- Read a number of decimal digits, with a point and an exponent if it has them. -/
def decimal? (negative : Bool) (text body : List Char) : Option Operand :=
  let whole := body.takeWhile Char.isDigit
  let rest := body.drop whole.length
  let (point, behind, rest) : Bool × List Char × List Char := match rest with
    | '.' :: cs => (true, cs.takeWhile Char.isDigit, cs.dropWhile Char.isDigit)
    | rest => (false, [], rest)
  let exponent? : Option (Option Int) := match rest with
    | [] => some none
    | e :: cs =>
      if e = 'e' || e = 'E' then (integer? (String.ofList cs)).map some else none
  match exponent? with
  | none => none
  | some exponent =>
    if (whole ++ behind).isEmpty then none
    else
      let e := exponent.getD 0
      let digits : Int := Nat.ofDigitChars 10 (whole ++ behind) 0
      let value := if negative then -digits else digits
      let shift := e - behind.length
      let (scaled, scale) : Int × Nat :=
        if 0 ≤ shift then (value * Nat.pow 10 shift.toNat, 0) else (value, (-shift).toNat)
      let places : Nat := ((behind.length : Int) - e).toNat
      let length : Int := (text.takeWhile fun c => c != 'e' && c != 'E').length
      let width := length + (if !point then 0 else if behind.isEmpty then -1
        else if whole.isEmpty then 1 else 0)
      let width : Int := match exponent with
        | none => width
        | some e =>
          if e < 0 then
            width + (if point then (if behind.isEmpty then 1 else 0) else 1) - e
          else
            width - (if point && places = 0 && !behind.isEmpty then 1 else 0) +
              (e - min (behind.length : Int) e)
      some ⟨scaled, scale, width, some places⟩

/-- Read a number. -/
def readOperand (s : String) : Except Fault Operand :=
  let text := s.toList.dropWhile fun c => c == ' ' || c == '\t' || c == '+'
  let (negative, body) := match text with
    | '-' :: cs => (true, cs)
    | cs => (false, cs)
  let lower := String.ofList (body.map Char.toLower)
  if lower = "nan" then .error (.notANumber s)
  else
    match body with
    | '0' :: x :: ds =>
      if x = 'x' || x = 'X' then
        let isHex (c : Char) : Bool := inCharClass "xdigit" c
        let digit (c : Char) : Nat :=
          if c.isDigit then c.toNat - '0'.toNat else c.toLower.toNat - 'a'.toNat + 10
        if ds.isEmpty || !ds.all isHex then .error (.notNumber s)
        else
          let n : Int := ds.foldl (fun n c => n * 16 + digit c) 0
          .ok ⟨if negative then -n else n, 0, 0, some 0⟩
      else
        match decimal? negative text body with
        | some n => .ok n
        | none => .error (.notNumber s)
    | _ =>
      match decimal? negative text body with
      | some n => .ok n
      | none => .error (.notNumber s)

/-- The number for another scale, which is not smaller. -/
def Operand.at (n : Operand) (scale : Nat) : Int := n.scaled * Nat.pow 10 (scale - n.scale)

/-- The numbers of a sequence. -/
def numbers (first step last : Int) : List Int :=
  if step = 0 then []
  else
    let count := Int.tdiv (last - first) step + 1
    let reaches : Bool := if 0 < step then first ≤ last else last ≤ first
    if reaches then (List.range count.toNat).map fun (i : Nat) => first + step * i else []

/-- A number with so many places, filled up with zeros to a width. -/
def shown (scale places width : Nat) (n : Int) : List Char :=
  let a := if scale ≤ places then n.natAbs * Nat.pow 10 (places - scale)
    else n.natAbs / Nat.pow 10 (scale - places)
  let ds := Nat.toDigits 10 a
  let ds := List.replicate (places + 1 - ds.length) '0' ++ ds
  let text := ds.take (ds.length - places) ++
    (if places = 0 then [] else '.' :: ds.drop (ds.length - places))
  let sign := if n < 0 then ['-'] else []
  sign ++ List.replicate (width - sign.length - text.length) '0' ++ text

/-- The width of the widest number. -/
def equalWidth (first last : Operand) (places : Nat) : Nat :=
  let extra (n : Operand) (isLast : Bool) : Int :=
    let own := n.places.getD 0
    n.width + ((places : Int) - own) + (if own = 0 && places ≠ 0 then 1 else 0) -
      (if isLast && own ≠ 0 && places = 0 then 1 else 0)
  (max (extra first false) (extra last true)).toNat

/-- A format: what stands before the number, how it is shown, and what stands behind it. -/
structure Format where
  before : List Char
  directive : Decimal.Directive
  behind : List Char

/-- Text up to a directive or to the end; a doubled sign stands for itself. -/
def plainPart : List Char → List Char × List Char
  | '%' :: '%' :: cs =>
    let (text, rest) := plainPart cs
    ('%' :: text, rest)
  | '%' :: cs => ([], '%' :: cs)
  | c :: cs =>
    let (text, rest) := plainPart cs
    (c :: text, rest)
  | [] => ([], [])

def readFormat (s : String) : Except String Format :=
  let quoted := Quoting.text s
  let (before, rest) := plainPart s.toList
  match rest with
  | [] => .error s!"format {quoted} has no % directive"
  | _ :: rest =>
    let (d, rest) := Decimal.Directive.readFlags rest {}
    let width := rest.takeWhile Char.isDigit
    let rest := rest.drop width.length
    let (precision, rest) : Option Nat × List Char := match rest with
      | '.' :: cs =>
        let ds := cs.takeWhile Char.isDigit
        (some (Nat.ofDigitChars 10 ds 0), cs.drop ds.length)
      | rest => (none, rest)
    let rest := match rest with
      | 'L' :: cs => cs
      | cs => cs
    match rest with
    | [] => .error s!"format {quoted} ends in %"
    | c :: rest =>
      if !"efgaEFGA".contains c then .error s!"format {quoted} has unknown %{c} directive"
      else
        let (behind, more) := plainPart rest
        if !more.isEmpty then .error s!"format {quoted} has too many % directives"
        else .ok ⟨before,
          { d with width := Nat.ofDigitChars 10 width 0, precision, kind := c }, behind⟩

/-- A fraction with a mantissa of 64 bits. -/
def closeFraction (negative : Bool) (num den : Nat) : Decimal.Binary :=
  if num = 0 then ⟨negative, 0, 0, 2⟩
  else
    let e : Int := (num.log2 : Int) - den.log2 - 63
    let m := if 0 ≤ e then Decimal.roundDiv num (den * Nat.pow 2 e.toNat)
      else Decimal.roundDiv (num * Nat.pow 2 (-e).toNat) den
    ⟨negative, m, e, 2⟩

def Format.text (f : Format) (scale : Nat) (n : Int) : List Char :=
  let reading := Decimal.Reading.finite (closeFraction (n < 0) n.natAbs (Nat.pow 10 scale))
  f.before ++ f.directive.float reading ++ f.behind

/-- What is asked for: first number, step and last number. -/
def readOperands : List String → Except Fault (Operand × Operand × Option Operand)
  | texts => do
    let one : Operand := ⟨1, 0, 1, some 0⟩
    let last (s : String) : Except Fault (Option Operand) :=
      if ["inf", "infinity", "+inf"].contains s.toLower then .ok none
      else (readOperand s).map some
    match texts with
    | [b] => return (one, one, ← last b)
    | [a, b] => return (← readOperand a, one, ← last b)
    | [a, s, b] => do
      let first ← readOperand a
      let step ← readOperand s
      let b ← last b
      if step.scaled = 0 then throw (.zeroStep s)
      return (first, step, b)
    | _ => return (one, one, some one)

end Sequence

/-- Arguments in which no number with a sign is taken for an option; `wants` tells that the
argument before is an option without its value. -/
def guardNumbers (wants : Bool) : List String → List String
  | [] => []
  | arg :: rest =>
    if wants then arg :: guardNumbers false rest
    else
      match arg.toList with
      | '-' :: c :: _ =>
        if c.isDigit || c = '.' then "--" :: arg :: rest
        else if arg = "--" then arg :: rest
        else arg :: guardNumbers (arg = "-s" || arg = "-f") rest
      | _ => arg :: rest

def seq : Tool := fun args =>
  withOptions "seq" "f|format: s|separator: w|equal-width" (guardNumbers false args) (fun o => do
    let separator := ((o.value? "s").getD "\n").toList
    let complain (fault : Sequence.Fault) : Act Nat := misuse "seq" fault.message
    if o.operands.isEmpty then return ← misuse "seq" "missing operand"
    if let some extra := o.operands[3]? then
      return ← misuse "seq" s!"extra operand {Quoting.text extra}"
    let format ← match o.value? "f" with
      | none => pure none
      | some text =>
        match Sequence.readFormat text with
        | .error text => return ← fail "seq" text
        | .ok f => pure (some f)
    match Sequence.readOperands o.operands with
    | .error fault => complain fault
    | .ok (first, step, last) => do
      if format.isSome && o.has "w" then return ← complain .formatAndWidth
      let scale := max first.scale (max step.scale ((last.map (·.scale)).getD 0))
      let places := max (first.places.getD 0) (step.places.getD 0)
      let width := match last with
        | some last => if o.has "w" then Sequence.equalWidth first last places else 0
        | none => 0
      let end' := match last with
        | some last => last.at scale
        | none => first.at scale + step.at scale * (0x20000 : Nat)
      let numbers := Sequence.numbers (first.at scale) (step.at scale) end'
      let texts := numbers.map fun n =>
        match format with
        | some f => f.text scale n
        | none => Sequence.shown scale places width n
      if !texts.isEmpty then emit (separator.intercalate texts ++ ['\n'])
      if last.isNone then throw .spinning
      return 0) 1 true

/-! ### Prime factors -/

/-- The prime factors of a number that has none below `d`, in ascending order. -/
def factorsFrom : Nat → Nat → Nat → List Nat
  | 0, _, n => [n]
  | fuel + 1, d, n =>
    if n < 2 then []
    else if n < d * d then [n]
    else if n % d = 0 then d :: factorsFrom fuel d (n / d)
    else factorsFrom fuel (if d = 2 then 3 else d + 2) n

def factor : Tool := fun args =>
  withOptions "factor" "h|exponents" args fun o => do
    let words ← if o.operands.isEmpty then do
        let text := (← Act.readAll 0).getD []
        pure (((Text.pieces (inCharClass "space") text).filter (!·.isEmpty)).map String.ofList)
      else pure o.operands
    forOperands words fun word => do
      let digits := String.ofList (word.toList.dropWhile (· == '+'))
      match natural? digits with
      | none => fail "factor" s!"{Quoting.text word} is not a valid positive integer"
      | some n =>
        let factors := factorsFrom (n.sqrt + 64) 2 n
        Act.print (s!"{n}:" ++ String.join (factors.map fun f => s!" {f}") ++ "\n")
        return 0

/-- A text over and over again. -/
def yes : Tool := fun args =>
  withOptions "yes" "" args fun o => do
    let line := (if o.operands.isEmpty then "y" else " ".intercalate o.operands).toList ++ ['\n']
    emit (List.replicate (endlessOctets / line.length + 1) line).flatten
    throw .spinning

end PatchTrial.Shell.Tools
