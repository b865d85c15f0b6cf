import PatchTrial.Calendar
import PatchTrial.Decimal.Directive
import PatchTrial.Shell.Tools.Files

/-!
Telling the date.

Times are in universal time. A date is shown by a format of directives, each with a flag for what
fills its number up and a width, if it has them.
-/
namespace PatchTrial

namespace Shell.Tools

namespace Date

def weekdays : List String :=
  ["Sunday", "Monday", "Tuesday", "Wednesday", "Thursday", "Friday", "Saturday"]

def months : List String :=
  ["January", "February", "March", "April", "May", "June", "July", "August", "September",
    "October", "November", "December"]

/-- What a number is filled up with, and to which width. -/
structure Fill where
  mark : Char
  width : Nat

/-- The text of a number. -/
def Fill.number (f : Fill) (n : Int) : String :=
  let ds := Nat.toDigits 10 n.natAbs
  let sign := if n < 0 then ['-'] else []
  let missing := List.replicate (f.width - ds.length - sign.length) f.mark
  String.ofList (if f.mark = '0' then sign ++ missing ++ ds else missing ++ sign ++ ds)

/-- A name of a list, in its short form if so wanted. -/
def nameIn (names : List String) (short : Bool) (n : Nat) : String :=
  let name := names.getD n ""
  if short then (name.take 3).toString else name

/-- What a directive says about a time. The flag tells what fills a number up. -/
def field? (t : Timestamp) (flag : Option Char) (width : Nat) (c : Char) : Option String :=
  let number (mark : Char) (least : Nat) (n : Int) : String :=
    let mark := match flag with
      | some '_' => ' '
      | some '0' => '0'
      | _ => mark
    (Fill.mk mark (if flag = some '-' then 0 else max least width)).number n
  let two (n : Nat) : String := number '0' 2 n
  let hour12 := if t.hour % 12 = 0 then 12 else t.hour % 12
  let half := if t.hour < 12 then "AM" else "PM"
  let plain (n : Int) (least : Nat) : String := (Fill.mk '0' least).number n
  let time := plain t.hour 2 ++ ":" ++ plain t.minute 2
  let seconds := ":" ++ plain t.second 2
  let date := plain t.year 4 ++ "-" ++ plain t.month 2 ++ "-" ++ plain t.day 2
  let fractionDigits := plain t.nanos 9
  match c with
  | 'Y' => some (number '0' 4 t.year)
  | 'C' => some (number '0' 2 (t.year / 100))
  | 'y' => some (number '0' 2 (t.year % 100))
  | 'm' => some (two t.month)
  | 'd' => some (two t.day)
  | 'e' => some (number ' ' 2 t.day)
  | 'H' => some (two t.hour)
  | 'I' => some (two hour12)
  | 'k' => some (number ' ' 2 t.hour)
  | 'l' => some (number ' ' 2 hour12)
  | 'M' => some (two t.minute)
  | 'S' => some (two t.second)
  | 'N' =>
    some (if flag = some '-' then
        String.ofList (fractionDigits.toList.reverse.dropWhile (· == '0')).reverse
      else (fractionDigits.take (if width = 0 then 9 else width)).toString)
  | 's' => some (number '0' 1 t.toSeconds)
  | 'j' => some (number '0' 3 t.dayOfYear)
  | 'u' => some (number '0' 1 (if t.weekday = 0 then 7 else t.weekday))
  | 'w' => some (number '0' 1 t.weekday)
  | 'U' => some (two ((t.dayOfYear + 6 - t.weekday) / 7))
  | 'W' => some (two ((t.dayOfYear + 6 - (t.weekday + 6) % 7) / 7))
  | 'V' => some (two t.weekDate.2)
  | 'G' => some (number '0' 4 t.weekDate.1)
  | 'g' => some (number '0' 2 (t.weekDate.1 % 100))
  | 'q' => some (number '0' 1 ((t.month + 2) / 3))
  | 'a' => some (nameIn weekdays true t.weekday)
  | 'A' => some (nameIn weekdays false t.weekday)
  | 'b' => some (nameIn months true (t.month - 1))
  | 'h' => some (nameIn months true (t.month - 1))
  | 'B' => some (nameIn months false (t.month - 1))
  | 'p' => some half
  | 'P' => some half.toLower
  | 'F' => some date
  | 'T' => some (time ++ seconds)
  | 'X' => some (time ++ seconds)
  | 'R' => some time
  | 'r' => some (plain hour12 2 ++ ":" ++ plain t.minute 2 ++ seconds ++ " " ++ half)
  | 'D' => some (plain t.month 2 ++ "/" ++ plain t.day 2 ++ "/" ++ plain (t.year % 100) 2)
  | 'x' => some (plain t.month 2 ++ "/" ++ plain t.day 2 ++ "/" ++ plain (t.year % 100) 2)
  | 'c' => some (nameIn weekdays true t.weekday ++ " " ++ nameIn months true (t.month - 1) ++ " " ++
      (Fill.mk ' ' 2).number t.day ++ " " ++ time ++ seconds ++ " " ++ plain t.year 1)
  | 'Z' => some "UTC"
  | 'z' => some "+0000"
  | 'n' => some "\n"
  | 't' => some "\t"
  | '%' => some "%"
  | _ => none

/-- A time by a format. -/
def format (t : Timestamp) : Nat → List Char → List Char
  | 0, cs => cs
  | _ + 1, [] => []
  | fuel + 1, '%' :: cs =>
    let flags := cs.takeWhile ("-_0^#+".contains ·)
    let rest := cs.drop flags.length
    let digits := rest.takeWhile Char.isDigit
    let after := rest.drop digits.length
    let colons := after.takeWhile (· == ':')
    match after.drop colons.length with
    | [] => '%' :: format t fuel cs
    | c :: behind =>
      let flag := flags.reverse.find? ("-_0".contains ·)
      let width := Nat.ofDigitChars 10 digits 0
      let zone : Option String :=
        if c ≠ 'z' || colons.isEmpty then none
        else some (if colons.length = 2 then "+00:00:00" else "+00:00")
      match zone.or (if colons.isEmpty then field? t flag width c else none) with
      | none => '%' :: format t fuel cs
      | some text =>
        let text := if flags.contains '^' then text.toUpper else text
        let text := if text.toList.all (fun c => !c.isDigit) then right width text else text
        text.toList ++ format t fuel behind
  | fuel + 1, c :: cs => c :: format t fuel cs

def textBy (t : Timestamp) (directives : String) : String :=
  String.ofList (format t (directives.length + 1) directives.toList)

/-- Read a date: a number of seconds behind an at sign, a word for the present, or a date with or
without a time of day. -/
def read? (now : Timestamp) (text : String) : Option Timestamp :=
  match (Text.trim text.toList) with
  | '@' :: cs =>
    let (sign, cs) : Int × List Char := match cs with
      | '-' :: cs => (-1, cs)
      | '+' :: cs => (1, cs)
      | cs => (1, cs)
    let (ds, rest) := cs.span Char.isDigit
    let seconds : Int := sign * (Nat.ofDigitChars 10 ds 0 : Int)
    match rest with
    | [] => if ds.isEmpty then none else some (Timestamp.ofSeconds seconds 0)
    | '.' :: fraction =>
      if ds.isEmpty || fraction.isEmpty || !fraction.all Char.isDigit then none
      else
        let nanos := Nat.ofDigitChars 10 ((fraction ++ List.replicate 9 '0').take 9) 0
        some (if sign < 0 && nanos ≠ 0 then Timestamp.ofSeconds (seconds - 1) (Nat.pow 10 9 - nanos)
          else Timestamp.ofSeconds seconds nanos)
    | _ => none
  | cs =>
    let day (n : Int) : Timestamp := Timestamp.ofSeconds (now.toSeconds + n * 86400) now.nanos
    match (String.ofList cs).toLower with
    | "now" => some now
    | "today" => some now
    | "tomorrow" => some (day 1)
    | "yesterday" => some (day (-1))
    | "" => some { now with hour := 0, minute := 0, second := 0, nanos := 0 }
    | _ =>
      let whole := String.ofList cs
      let hasZone (s : String) : Bool := s.endsWith "Z" || s.endsWith "UTC" || s.contains '+'
      [whole, whole ++ "Z", whole ++ ":00Z", whole ++ "T00:00:00Z"].findSome? fun s =>
        if hasZone s then Timestamp.parse? s else none

/-- The present, for a clock that shows so many milliseconds. -/
def present (clock : Nat) : Timestamp :=
  Timestamp.ofSeconds (1700000000 + clock / 1000) (clock % 1000 * Nat.pow 10 6)

/-- The directives for a date of the international form, to a precision. -/
def precise? (separator kind : String) : Option String :=
  match kind with
  | "" => some "%F"
  | "date" => some "%F"
  | "hours" => some ("%F" ++ separator ++ "%H%:z")
  | "minutes" => some ("%F" ++ separator ++ "%H:%M%:z")
  | "seconds" => some ("%F" ++ separator ++ "%H:%M:%S%:z")
  | "ns" => some ("%F" ++ separator ++ "%H:%M:%S,%N%:z")
  | _ => none

end Date

def date : Tool := fun args =>
  withOptions "date"
    ("u|utc|universal d|date: I|iso-8601? R|rfc-email rfc-3339: f|file: r|reference: s|set: debug")
    args fun o => do
      let now := Date.present (← Act.world).clock
      let shown : Except String String :=
        match o.last? ["I", "R", "rfc-3339"], o.operands with
        | some "I", _ =>
          let kind := (o.value? "I").getD ""
          match Date.precise? "T" kind with
          | some directives => .ok directives
          | none => .error s!"invalid argument {Quoting.text kind} for '--iso-8601'"
        | some "R", _ => .ok "%a, %d %b %Y %H:%M:%S %z"
        | some _, _ =>
          let kind := (o.value? "rfc-3339").getD ""
          match Date.precise? " " kind with
          | some directives => .ok directives
          | none => .error s!"invalid argument {Quoting.text kind} for '--rfc-3339'"
        | none, [] => .ok "%a %b %e %H:%M:%S %Z %Y"
        | none, operand :: _ =>
          if operand.startsWith "+" then .ok (operand.drop 1).toString
          else .error s!"invalid date {Quoting.text operand}"
      match o.operands, shown with
      | _ :: extra :: _, _ => misuse "date" s!"extra operand {Quoting.text extra}"
      | _, .error text => fail "date" text
      | _, .ok directives =>
        match o.value? "d" with
        | none =>
          Act.print (Date.textBy now directives ++ "\n")
          return 0
        | some text =>
          match Date.read? now text with
          | some t =>
            Act.print (Date.textBy t directives ++ "\n")
            return 0
          | none => fail "date" s!"invalid date {Quoting.text text}"

end Shell.Tools

end PatchTrial
