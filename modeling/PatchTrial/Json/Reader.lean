import PatchTrial.Json.Number

/-!
Reading JSON texts.

The grammar is strict: only space, tab, line feed and carriage return between tokens, no trailing
commas, no raw control characters in strings, nothing after the value. Numbers out of range, lone
surrogates, and arrays and objects of which more than 127 are within one another are read, but
cannot be used.
-/
namespace PatchTrial.Json

def isSpace (c : Char) : Bool := c == ' ' || c == '\t' || c == '\n' || c == '\r'

def skipSpace (cs : List Char) : List Char := cs.dropWhile isSpace

def hexDigit? (c : Char) : Option Nat :=
  if '0' ≤ c && c ≤ '9' then some (c.toNat - '0'.toNat)
  else if 'a' ≤ c && c ≤ 'f' then some (c.toNat - 'a'.toNat + 10)
  else if 'A' ≤ c && c ≤ 'F' then some (c.toNat - 'A'.toNat + 10)
  else none

def hexUnit? (a b c d : Char) : Option Nat := do
  return ((← hexDigit? a) * 16 + (← hexDigit? b)) * 256 + (← hexDigit? c) * 16 + (← hexDigit? d)

/-- What an escape of one letter stands for. -/
def escape? : Char → Option Char
  | '"' => some '"'
  | '\\' => some '\\'
  | '/' => some '/'
  | 'b' => some (Char.ofNat 8)
  | 'f' => some (Char.ofNat 12)
  | 'n' => some '\n'
  | 'r' => some '\r'
  | 't' => some '\t'
  | _ => none

/-- The first half of a surrogate pair. -/
def isHighSurrogate (n : Nat) : Bool := 0xD800 ≤ n && n ≤ 0xDBFF

/-- The second half of a surrogate pair. -/
def isLowSurrogate (n : Nat) : Bool := 0xDC00 ≤ n && n ≤ 0xDFFF

/-- The character of a surrogate pair. -/
def pairedChar (high low : Nat) : Char :=
  Char.ofNat (0x10000 + (high - 0xD800) * 0x400 + (low - 0xDC00))

/-- What is written in a quoted text: a character, or the number of a 16-bit unit. -/
inductive Piece where
  | char (c : Char)
  | unit (n : Nat)

/-- Read up to the closing quote, the opening one having been read. -/
def pieces? : List Char → Option (List Piece × List Char)
  | [] => none
  | '"' :: rest => some ([], rest)
  | '\\' :: 'u' :: a :: b :: c :: d :: rest =>
    match hexUnit? a b c d with
    | none => none
    | some n => (pieces? rest).map fun (ps, r) => (.unit n :: ps, r)
  | '\\' :: e :: rest =>
    match escape? e with
    | none => none
    | some c => (pieces? rest).map fun (ps, r) => (.char c :: ps, r)
  | c :: rest =>
    if c.toNat < 0x20 || c == '\\' then none
    else (pieces? rest).map fun (ps, r) => (.char c :: ps, r)

/-- The text that pieces stand for, if no half of a surrogate pair stands alone. -/
def textOfPieces? : List Piece → Option (List Char)
  | [] => some []
  | .char c :: rest => (textOfPieces? rest).map (c :: ·)
  | .unit n :: .unit m :: rest =>
    if isHighSurrogate n then
      if isLowSurrogate m then (textOfPieces? rest).map (pairedChar n m :: ·) else none
    else if isLowSurrogate n then none
    else (textOfPieces? (.unit m :: rest)).map (Char.ofNat n :: ·)
  | .unit n :: rest =>
    if isHighSurrogate n || isLowSurrogate n then none
    else (textOfPieces? rest).map (Char.ofNat n :: ·)

/-- Read a quoted text. There is no text if half of a surrogate pair stands alone. -/
def readString? : List Char → Option (Option String × List Char)
  | '"' :: rest => (pieces? rest).map fun (ps, r) => ((textOfPieces? ps).map String.ofList, r)
  | _ => none

/-- Read one of the three words, or a number. -/
def readScalar? (cs : List Char) : Option (Json × List Char) :=
  match cs with
  | 'n' :: 'u' :: 'l' :: 'l' :: rest => some (.null, rest)
  | 't' :: 'r' :: 'u' :: 'e' :: rest => some (.bool true, rest)
  | 'f' :: 'a' :: 'l' :: 's' :: 'e' :: rest => some (.bool false, rest)
  | '"' :: _ => (readString? cs).map fun (s, r) => ((s.map Json.string).getD .unusable, r)
  | _ => (readNumber? cs).map fun (n, r) => ((n.map Json.number).getD .unusable, r)

/-- Fields as an object, if all keys can be used. -/
def ofFields (fields : List (Option String × Json)) : Json :=
  ((fields.mapM fun (f : Option String × Json) => f.1.map (·, f.2)).map Json.object).getD .unusable

mutual
/-- Read a value; of arrays and objects, `depth` more may be opened within one another. -/
def readValue? (fuel depth : Nat) (cs : List Char) : Option (Json × List Char) :=
  match fuel with
  | 0 => none
  | fuel + 1 =>
    let within (j : Json) : Json := if depth = 0 then .unusable else j
    match skipSpace cs with
    | '[' :: rest =>
      match skipSpace rest with
      | ']' :: rest => some (within (.array []), rest)
      | rest => (readItems? fuel (depth - 1) rest).map fun (js, r) => (within (.array js), r)
    | '{' :: rest =>
      match skipSpace rest with
      | '}' :: rest => some (within (.object []), rest)
      | rest => (readFields? fuel (depth - 1) rest).map fun (fs, r) => (within (ofFields fs), r)
    | rest => readScalar? rest

/-- Read items up to the closing bracket. -/
def readItems? (fuel depth : Nat) (cs : List Char) : Option (List Json × List Char) :=
  match fuel with
  | 0 => none
  | fuel + 1 =>
    match readValue? fuel depth cs with
    | none => none
    | some (j, rest) =>
      match skipSpace rest with
      | ']' :: rest => some ([j], rest)
      | ',' :: rest => (readItems? fuel depth rest).map fun (js, r) => (j :: js, r)
      | _ => none

/-- Read fields up to the closing brace. -/
def readFields? (fuel depth : Nat) (cs : List Char) :
    Option (List (Option String × Json) × List Char) :=
  match fuel with
  | 0 => none
  | fuel + 1 =>
    match readString? (skipSpace cs) with
    | none => none
    | some (k, rest) =>
      match skipSpace rest with
      | ':' :: rest =>
        match readValue? fuel depth rest with
        | none => none
        | some (j, rest) =>
          match skipSpace rest with
          | '}' :: rest => some ([(k, j)], rest)
          | ',' :: rest => (readFields? fuel depth rest).map fun (fs, r) => ((k, j) :: fs, r)
          | _ => none
      | _ => none
end

/-- The deepest nesting of arrays and objects that is used. -/
def maxDepth : Nat := 127

/-- Read a text that holds one value, parts of which may be unusable. Each step consumes a character
or descends by one, so twice the length of the text is fuel enough. -/
def read? (text : String) : Option Json :=
  let cs := text.toList
  match readValue? (2 * cs.length + 2) maxDepth cs with
  | some (j, rest) => if (skipSpace rest).isEmpty then some j else none
  | none => none

/-- Read a text that holds one value, all of which is used. -/
def readWhole? (text : String) : Option Json := (read? text).filter isUsable

end PatchTrial.Json
