import PatchTrial.Benchmark.Quantity
import PatchTrial.Json.Reader
import PatchTrial.StepRun
import PatchTrial.Text.Basic
import PatchTrial.Text.WordChar

/-!
The metric that a bench step prints.

Three sources are tried in turn, each from the last line of the output upwards: a line that is a
JSON object with a numeric `value`; a line of the form name, colon or equals sign, number, unit;
and, failing both, the time that the step took.
-/
namespace PatchTrial

structure Measurement (α : Type) where
  metric : String
  value : α
  unit : Option String
  lowerIsBetter : Bool
  deriving DecidableEq, BEq

/-- A line that states a metric. -/
structure MetricLine where
  name : List Char
  number : Decimal.Numeral
  unit : String
  deriving DecidableEq

namespace MetricLine

/-- The units that a metric line may carry. -/
def units : List String := ["ns", "us", "µs", "ms", "s", "ops/s"]

def isNameStart (c : Char) : Bool := c.isAlpha || c == '_'

def isNameChar (c : Char) : Bool :=
  Text.isWordChar c || c == ' ' || c == '.' || c == '-' || c == '/'

/-- A name starts with an ASCII letter or an underscore and goes on with word characters, spaces,
points, dashes and slashes. -/
def isName : List Char → Bool
  | [] => false
  | c :: cs => isNameStart c && cs.all isNameChar

/-- The text before and after the first colon or equals sign. -/
def splitName? : List Char → Option (List Char × List Char)
  | [] => none
  | c :: cs =>
    if c == ':' || c == '=' then some ([], cs)
    else (splitName? cs).map fun (a, b) => (c :: a, b)

def sign : List Char → Bool × List Char
  | '-' :: cs => (true, cs)
  | '+' :: cs => (false, cs)
  | cs => (false, cs)

/-- Digits behind a point; none if there is no point with a digit after it. -/
def fractionDigits (cs : List Char) : List Char × List Char :=
  match cs with
  | '.' :: rest =>
    match rest.span Json.isDecimalDigit with
    | ([], _) => ([], cs)
    | found => found
  | _ => ([], cs)

/-- An exponent; zero if there is no `e` with a digit after it. -/
def exponent (cs : List Char) : Int × List Char :=
  match cs with
  | [] => (0, [])
  | c :: rest =>
    if c == 'e' || c == 'E' then
      let (negative, rest) := sign rest
      match rest.span Json.isDecimalDigit with
      | ([], _) => (0, cs)
      | (ds, rest) =>
        let e : Int := Nat.ofDigitChars 10 ds 0
        (if negative then -e else e, rest)
    else (0, cs)

/-- A signed decimal number at the start of `cs`. -/
def numeral? (cs : List Char) : Option (Decimal.Numeral × List Char) :=
  let (negative, cs) := sign cs
  match cs.span Json.isDecimalDigit with
  | ([], _) => none
  | (whole, cs) =>
    let (fraction, cs) := fractionDigits cs
    let (e, cs) := exponent cs
    some (⟨negative, Nat.ofDigitChars 10 (whole ++ fraction) 0, e - fraction.length⟩, cs)

/-- Read a line as name, separator, number and unit, with blanks allowed around each. -/
def read? (line : List Char) : Option MetricLine := do
  let (before, after) ← splitName? line
  let name := Text.trim before
  guard (isName name)
  let (number, rest) ← numeral? (Text.trimStart after)
  let unit := String.ofList (Text.trim rest)
  guard (units.contains unit)
  return ⟨name, number, unit⟩

end MetricLine

namespace Measurement

variable {α : Type} [Quantity α]

/-- Whether a unit counts events per second, so that more is better. -/
def isThroughput (unit : String) : Bool := "/s".toList.isSuffixOf unit.toList

def ofMetricLine (m : MetricLine) : Measurement α where
  metric := String.ofList m.name
  value := Quantity.ofNumeral m.number
  unit := some m.unit
  lowerIsBetter := !isThroughput m.unit

/-- The measurement in a JSON object with a finite number as its `value`. Parts of the wrong kind
are left out. -/
def ofJsonLine? (line : List Char) : Option (Measurement α) := do
  let line := Text.trim line
  guard (line.head? = some '{')
  let j ← Json.readWhole? (String.ofList line)
  let .number n ← j.field? "value" | none
  let value : α := Quantity.ofNumber n
  guard (Quantity.isFinite value)
  let unit := (j.field? "unit").bind Json.string?
  return {
    metric := ((j.field? "metric").bind Json.string?).getD "value"
    value := value
    unit := unit
    lowerIsBetter :=
      ((j.field? "lower_is_better").bind Json.bool?).getD (!unit.any isThroughput) }

/-- The time that a step took. -/
def wallTime (r : StepRun) : Measurement α where
  metric := "wall_time_ms"
  value := Quantity.ofMillis r.durationMs
  unit := some "ms"
  lowerIsBetter := true

/-- The measurement of a bench step. -/
def ofStepRun (r : StepRun) : Measurement α :=
  let lines := (Text.lines r.stdout.toList).reverse
  match lines.findSome? ofJsonLine? with
  | some m => m
  | none =>
    match lines.findSome? MetricLine.read? with
    | some l => ofMetricLine l
    | none => wallTime r

end Measurement

namespace Measurement

def ofJson? (j : Json) : Option (Measurement Float) := do
  let r ← j.record? ["metric", "value", "unit", "lower_is_better"]
  return {
    metric := ← r.required "metric" Json.string?
    value := ← r.required "value" Json.float?
    unit := ← r.optional "unit" Json.string?
    lowerIsBetter := ← r.withDefault "lower_is_better" Json.bool? true }

def toJson (m : Measurement Float) : Json :=
  .object [("metric", .string m.metric), ("value", Json.double m.value),
    ("unit", Json.orNull .string m.unit), ("lower_is_better", .bool m.lowerIsBetter)]

end Measurement

end PatchTrial
