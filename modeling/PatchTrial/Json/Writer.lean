import PatchTrial.Json.Basic
import PatchTrial.Decimal.Layout

/-!
JSON texts.

`compact` writes a value on one line without blanks; `pretty` puts every item and field on a line
of its own, two spaces deeper per level, and empty arrays and objects as `[]` and `\x7b\x7d`.
A floating-point number that is not finite is written as `null`.
-/
namespace PatchTrial.Json

/-- A character inside a quoted text. -/
def escaped (c : Char) : List Char :=
  match c with
  | '"' => ['\\', '"']
  | '\\' => ['\\', '\\']
  | '\n' => ['\\', 'n']
  | '\r' => ['\\', 'r']
  | '\t' => ['\\', 't']
  | c =>
    if c.toNat = 8 then ['\\', 'b']
    else if c.toNat = 12 then ['\\', 'f']
    else if c.toNat < 0x20 then
      ['\\', 'u', '0', '0', Nat.digitChar (c.toNat / 16), Nat.digitChar (c.toNat % 16)]
    else [c]

def quoted (s : String) : List Char := '"' :: s.toList.flatMap escaped ++ ['"']

/-- Shortest digits, or `null` if there are none. -/
def readingText (r : Decimal.Reading) : List Char :=
  match r with
  | .finite _ => (Decimal.Layout.interchange.text r).toList
  | _ => "null".toList

def Number.text : Number → List Char
  | .natural n => Nat.toDigits 10 n.toNat
  | .negative n => '-' :: Nat.toDigits 10 n.toInt.natAbs
  | .double x => readingText (Decimal.ofFloat x)
  | .single x => readingText (Decimal.ofFloat32 x)

/-- The text of a value that has no parts. -/
def scalarText : Json → List Char
  | .bool true => "true".toList
  | .bool false => "false".toList
  | .number n => n.text
  | .string s => quoted s
  | _ => "null".toList

mutual
def compactChars : Json → List Char
  | .array items => '[' :: compactItems items ++ [']']
  | .object fields => '{' :: compactFields fields ++ ['}']
  | j => scalarText j

def compactItems : List Json → List Char
  | [] => []
  | [j] => compactChars j
  | j :: js => compactChars j ++ ',' :: compactItems js

def compactFields : List (String × Json) → List Char
  | [] => []
  | [(k, j)] => quoted k ++ ':' :: compactChars j
  | (k, j) :: rest => quoted k ++ ':' :: compactChars j ++ ',' :: compactFields rest
end

/-- A line break and the indentation of a level. -/
def lineBreak (level : Nat) : List Char := '\n' :: List.replicate (2 * level) ' '

mutual
def prettyChars (level : Nat) : Json → List Char
  | .array [] => ['[', ']']
  | .array items => '[' :: prettyItems (level + 1) items ++ lineBreak level ++ [']']
  | .object [] => ['{', '}']
  | .object fields => '{' :: prettyFields (level + 1) fields ++ lineBreak level ++ ['}']
  | j => scalarText j

def prettyItems (level : Nat) : List Json → List Char
  | [] => []
  | [j] => lineBreak level ++ prettyChars level j
  | j :: js => lineBreak level ++ prettyChars level j ++ ',' :: prettyItems level js

def prettyFields (level : Nat) : List (String × Json) → List Char
  | [] => []
  | [(k, j)] => lineBreak level ++ quoted k ++ ':' :: ' ' :: prettyChars level j
  | (k, j) :: rest =>
    lineBreak level ++ quoted k ++ ':' :: ' ' :: prettyChars level j ++
      ',' :: prettyFields level rest
end

def compact (j : Json) : String := String.ofList (compactChars j)

def pretty (j : Json) : String := String.ofList (prettyChars 0 j)

end PatchTrial.Json
