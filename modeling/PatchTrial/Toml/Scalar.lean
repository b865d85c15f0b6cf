import PatchTrial.Decimal.Nearest
import PatchTrial.Json.Reader
import PatchTrial.Text.Basic
import PatchTrial.Time
import PatchTrial.Toml.Basic

/-!
Reading the TOML values that have no parts: strings, numbers, dates and times.

Each reader takes the text at its first character and returns the value with the rest. A whole
number must fit in 64 bits with its sign; digits may be separated by single underscores.
-/
namespace PatchTrial.Toml

/-! ### Strings -/

/-- Characters that may stand for themselves in a string or a comment. -/
def isPlain (c : Char) : Bool := c == '\t' || (0x20 ≤ c.toNat && c.toNat ≠ 0x7F)

def isBlankChar (c : Char) : Bool := c == ' ' || c == '\t'

def skipBlanks (cs : List Char) : List Char := cs.dropWhile isBlankChar

/-- The rest after a line break. -/
def lineBreak? : List Char → Option (List Char)
  | '\n' :: rest => some rest
  | '\r' :: '\n' :: rest => some rest
  | _ => none

/-- The number that `count` hexadecimal digits stand for. -/
def hexNumber? : Nat → Nat → List Char → Option (Nat × List Char)
  | 0, n, cs => some (n, cs)
  | count + 1, n, c :: cs => do hexNumber? count (n * 16 + (← Json.hexDigit? c)) cs
  | _ + 1, _, [] => none

/-- The character that an escape stands for, after the backslash. -/
def escape? : List Char → Option (Char × List Char)
  | 'u' :: cs => do
    let (n, rest) ← hexNumber? 4 0 cs
    if n.isValidChar then some (Char.ofNat n, rest) else none
  | 'U' :: cs => do
    let (n, rest) ← hexNumber? 8 0 cs
    if n.isValidChar then some (Char.ofNat n, rest) else none
  | '/' :: _ => none
  | c :: cs => (Json.escape? c).map fun e => (e, cs)
  | [] => none

/-- Skip blanks and line breaks. -/
def skipBreaks : List Char → List Char
  | ' ' :: cs => skipBreaks cs
  | '\t' :: cs => skipBreaks cs
  | '\n' :: cs => skipBreaks cs
  | '\r' :: '\n' :: cs => skipBreaks cs
  | cs => cs

/-- The rest after blanks with a line break among them, and all blanks and line breaks that
follow. -/
def foldedBreak? (cs : List Char) : Option (List Char) :=
  (lineBreak? (skipBlanks cs)).map skipBreaks

/-- Read up to the closing quote of a string on one line. -/
def basicBody? : Nat → List Char → Option (List Char × List Char)
  | 0, _ => none
  | _ + 1, [] => none
  | _ + 1, '"' :: rest => some ([], rest)
  | fuel + 1, '\\' :: rest => do
    let (c, rest) ← escape? rest
    let (s, rest) ← basicBody? fuel rest
    return (c :: s, rest)
  | fuel + 1, c :: rest => do
    guard (isPlain c)
    let (s, rest) ← basicBody? fuel rest
    return (c :: s, rest)

/-- After three quotes, up to two more belong to the string that they close. -/
def closing (quote : Char) (cs : List Char) : List Char × List Char :=
  let more := (cs.takeWhile (· == quote)).take 2
  (more, cs.drop more.length)

/-- Read up to the closing quotes of a string over several lines. -/
def longBody? (quote : Char) : Nat → List Char → Option (List Char × List Char)
  | 0, _ => none
  | _ + 1, [] => none
  | fuel + 1, c :: rest =>
    if [c, c, c].isPrefixOf (c :: rest) && c == quote then some (closing quote (rest.drop 2))
    else if c == '\\' && quote == '"' then
      match foldedBreak? rest with
      | some rest => longBody? quote fuel rest
      | none => do
        let (e, rest) ← escape? rest
        let (s, rest) ← longBody? quote fuel rest
        return (e :: s, rest)
    else
      match lineBreak? (c :: rest) with
      | some rest => do
        let (s, rest) ← longBody? quote fuel rest
        return ('\n' :: s, rest)
      | none => do
        guard (isPlain c)
        let (s, rest) ← longBody? quote fuel rest
        return (c :: s, rest)

/-- Read up to the closing quote of a string without escapes. -/
def literalBody? (cs : List Char) : Option (List Char × List Char) :=
  match cs.span (fun c => isPlain c && c != '\'') with
  | (s, '\'' :: rest) => some (s, rest)
  | _ => none

/-- A line break right after the opening quotes is not part of the string. -/
def dropFirstBreak (cs : List Char) : List Char := (lineBreak? cs).getD cs

/-- Read a string in single or double quotes on one line. -/
def shortString? : List Char → Option (String × List Char)
  | '"' :: rest => (basicBody? (rest.length + 1) rest).map fun (s, r) => (String.ofList s, r)
  | '\'' :: rest => (literalBody? rest).map fun (s, r) => (String.ofList s, r)
  | _ => none

/-- Read a string of any kind. -/
def readString? (cs : List Char) : Option (String × List Char) :=
  match cs with
  | '"' :: '"' :: '"' :: rest =>
    (longBody? '"' (rest.length + 1) (dropFirstBreak rest)).map
      fun (s, r) => (String.ofList s, r)
  | '\'' :: '\'' :: '\'' :: rest =>
    (longBody? '\'' (rest.length + 1) (dropFirstBreak rest)).map
      fun (s, r) => (String.ofList s, r)
  | _ => shortString? cs

/-! ### Numbers -/

/-- Digits with single underscores between them. -/
def digitsWith? (p : Char → Bool) : List Char → Option (List Char × List Char)
  | [] => none
  | [c] => if p c then some ([c], []) else none
  | c :: '_' :: rest =>
    if p c then (digitsWith? p rest).map fun (ds, r) => (c :: ds, r) else none
  | c :: d :: rest =>
    if p c then
      if p d then (digitsWith? p (d :: rest)).map fun (ds, r) => (c :: ds, r)
      else some ([c], d :: rest)
    else none

def decimalDigits? : List Char → Option (List Char × List Char) := digitsWith? Json.isDecimalDigit

/-- Whole digits, where a leading zero stands alone. -/
def wholeDigits? : List Char → Option (List Char × List Char)
  | '0' :: rest => some (['0'], rest)
  | cs => decimalDigits? cs

/-- A whole number if it fits in 64 bits. -/
def fitting? (n : Int) : Option Toml :=
  if -0x8000000000000000 ≤ n && n < 0x8000000000000000 then some (.integer n) else none

/-- A whole number in a base of at most sixteen. -/
def inBase? (base : Nat) (cs : List Char) : Option (Toml × List Char) := do
  let (ds, rest) ← digitsWith? (fun c => (Json.hexDigit? c).any (· < base)) cs
  let n := ds.foldl (fun n c => n * base + (Json.hexDigit? c).getD 0) 0
  return (← fitting? n, rest)

/-- Digits behind a point, if there is one. -/
def fraction? : List Char → Option (List Char × List Char)
  | '.' :: rest => decimalDigits? rest
  | cs => some ([], cs)

/-- An exponent, if there is one. -/
def exponent? (cs : List Char) : Option (Option Int × List Char) :=
  match cs with
  | c :: rest =>
    if c == 'e' || c == 'E' then do
      let (negative, rest) := match rest with
        | '-' :: rest => (true, rest)
        | '+' :: rest => (false, rest)
        | rest => (false, rest)
      let (ds, rest) ← decimalDigits? rest
      let n : Int := Nat.ofDigitChars 10 ds 0
      return (some (if negative then -n else n), rest)
    else some (none, cs)
  | [] => some (none, [])

/-- An infinity or the value that is no number. -/
def specialFloat? (negative : Bool) : List Char → Option (Toml × List Char)
  | 'i' :: 'n' :: 'f' :: rest => some (.float (if negative then -1.0 / 0.0 else 1.0 / 0.0), rest)
  | 'n' :: 'a' :: 'n' :: rest => some (.float (0.0 / 0.0), rest)
  | _ => none

/-- A number after its sign. Numbers beyond the range of floats are refused if they are
positive. -/
def unsigned? (negative : Bool) (cs : List Char) : Option (Toml × List Char) :=
  match specialFloat? negative cs with
  | some found => some found
  | none => do
    let (whole, rest) ← wholeDigits? cs
    let (fraction, rest) ← fraction? rest
    let (e, rest) ← exponent? rest
    let n := Nat.ofDigitChars 10 (whole ++ fraction) 0
    if fraction.isEmpty && e.isNone then
      return (← fitting? (if negative then -n else n), rest)
    else
      let x := (Decimal.Numeral.mk negative n (e.getD 0 - fraction.length)).toFloat
      guard (negative || x.isFinite)
      return (.float x, rest)

def readNumber? : List Char → Option (Toml × List Char)
  | '0' :: 'x' :: rest => inBase? 16 rest
  | '0' :: 'o' :: rest => inBase? 8 rest
  | '0' :: 'b' :: rest => inBase? 2 rest
  | '-' :: rest => unsigned? true rest
  | '+' :: rest => unsigned? false rest
  | cs => unsigned? false cs

/-! ### Dates and times -/

/-- A number of exactly two digits that is at most `max`. -/
def upTo? (max : Nat) (cs : List Char) : Option (Nat × List Char) := do
  let (n, rest) ← Timestamp.twoDigits? cs
  if n ≤ max then some (n, rest) else none

/-- The rest after the character `c`. -/
def after? (c : Char) : List Char → Option (List Char)
  | d :: rest => if d = c then some rest else none
  | [] => none

/-- The rest after a time of day. -/
def afterTime? (cs : List Char) : Option (List Char) := do
  let (_, cs) ← upTo? 23 cs
  let (_, cs) ← upTo? 59 (← after? ':' cs)
  let (_, cs) ← upTo? 60 (← after? ':' cs)
  match cs with
  | '.' :: rest =>
    match rest.span Json.isDecimalDigit with
    | ([], _) => none
    | (_, rest) => some rest
  | _ => some cs

/-- The rest after an offset, if there is one. -/
def afterOffset? : List Char → Option (List Char)
  | [] => some []
  | c :: rest =>
    if c == 'Z' || c == 'z' then some rest
    else if c == '+' || c == '-' then do
      let (_, rest) ← upTo? 23 rest
      let (_, rest) ← upTo? 59 (← after? ':' rest)
      return rest
    else some (c :: rest)

/-- Whether a text starts with a time of day. -/
def startsTime (cs : List Char) : Bool :=
  match upTo? 23 cs with
  | some (_, ':' :: _) => true
  | _ => false

/-- Whether a text starts with a date. -/
def startsDate (cs : List Char) : Bool :=
  (cs.take 4).all Json.isDecimalDigit && cs[4]? == some '-'

/-- The rest after a date and what may follow it. -/
def afterDate? (cs : List Char) : Option (List Char) := do
  let year := Nat.ofDigitChars 10 (cs.take 4) 0
  let (month, cs) ← upTo? 12 (cs.drop 5)
  let (day, cs) ← upTo? 31 (← after? '-' cs)
  guard (1 ≤ month && 1 ≤ day && day ≤ Timestamp.daysInMonth year month)
  match cs with
  | c :: rest =>
    if (c == 'T' || c == 't' || c == ' ') && startsTime rest then
      (afterTime? rest).bind afterOffset?
    else some cs
  | [] => some []

/-- Read a date, a time or both. -/
def readDatetime? (cs : List Char) : Option (Toml × List Char) := do
  let rest ← if startsDate cs then afterDate? cs else afterTime? cs
  return (.datetime (String.ofList (cs.take (cs.length - rest.length))), rest)

/-- Read a value that has no parts. -/
def readScalar? (cs : List Char) : Option (Toml × List Char) :=
  match cs with
  | '"' :: _ => (readString? cs).map fun (s, r) => (.string s, r)
  | '\'' :: _ => (readString? cs).map fun (s, r) => (.string s, r)
  | 't' :: 'r' :: 'u' :: 'e' :: rest => some (.boolean true, rest)
  | 'f' :: 'a' :: 'l' :: 's' :: 'e' :: rest => some (.boolean false, rest)
  | _ => if startsDate cs || startsTime cs then readDatetime? cs else readNumber? cs

end PatchTrial.Toml
