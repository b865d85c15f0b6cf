/-!
Cutting, trimming and searching of texts, written on lists of characters.

A text is cut into pieces at separators, into words at blanks, and into lines at line feeds.
Searching is for a contiguous run of characters; no function here looks at bytes.

The blanks are the twenty-five characters with the White_Space property. Commands, diffs, output
lines and option values are all trimmed and split by this one set.
-/
namespace PatchTrial.Text

/-- The space characters of the White_Space property, control characters included. -/
def isBlank (c : Char) : Bool :=
  let n := c.toNat
  (0x9 ≤ n && n ≤ 0xD) || n == 0x20 || n == 0x85 || n == 0xA0 || n == 0x1680 ||
    (0x2000 ≤ n && n ≤ 0x200A) || n == 0x2028 || n == 0x2029 || n == 0x202F || n == 0x205F ||
    n == 0x3000

/-- The pieces between the characters that satisfy `p`; a text without any is one piece. -/
def pieces (p : Char → Bool) : List Char → List (List Char)
  | [] => [[]]
  | c :: cs =>
    if p c then [] :: pieces p cs
    else match pieces p cs with
      | [] => [[c]]
      | w :: ws => (c :: w) :: ws

/-- The words of a text: its pieces between blanks, without the empty ones. -/
def words (cs : List Char) : List (List Char) :=
  (pieces isBlank cs).filter (!·.isEmpty)

def trimStart (cs : List Char) : List Char := cs.dropWhile isBlank

def trimEnd (cs : List Char) : List Char := (cs.reverse.dropWhile isBlank).reverse

/-- A text without the blanks around it. -/
def trim (cs : List Char) : List Char := trimEnd (trimStart cs)

/-- A carriage return at the end of a line belongs to the line break. -/
def dropReturn (cs : List Char) : List Char :=
  if cs.getLast? = some '\r' then cs.dropLast else cs

/-- All pieces but the last ended with a line feed; an empty last piece is no line. -/
def lines.ofPieces : List (List Char) → List (List Char)
  | [] => []
  | [last] => if last.isEmpty then [] else [last]
  | p :: ps => dropReturn p :: ofPieces ps

/-- The lines of a text, without their line breaks. -/
def lines (cs : List Char) : List (List Char) := lines.ofPieces (pieces (· == '\n') cs)

/-- The rest of `cs` after `start`, if `cs` starts with it. -/
def afterStart? (start cs : List Char) : Option (List Char) :=
  if start.isPrefixOf cs then some (cs.drop start.length) else none

/-- Whether `needle` occurs in a text as a contiguous run. -/
def occursIn (needle : List Char) : List Char → Bool
  | [] => needle.isEmpty
  | c :: cs => needle.isPrefixOf (c :: cs) || occursIn needle cs

/-- The text before and after the first `sep`. -/
def splitAt? (sep : Char) : List Char → Option (List Char × List Char)
  | [] => none
  | c :: cs => if c = sep then some ([], cs) else (splitAt? sep cs).map fun (a, b) => (c :: a, b)

/-- A text without any number of leading `./`. -/
def dropDotSlash : List Char → List Char
  | '.' :: '/' :: cs => dropDotSlash cs
  | cs => cs

/-- Words joined by single spaces. -/
def unwords (ws : List (List Char)) : List Char := [' '].intercalate ws

/-- The ASCII letters in lower case, all else unchanged. -/
def asciiLower (cs : List Char) : List Char := cs.map Char.toLower

end PatchTrial.Text

namespace PatchTrial

/-- `s` without the blanks around it. -/
def trimmed (s : String) : String := String.ofList (Text.trim s.toList)

/-- Whether `s` is empty but for blanks. -/
def isBlankText (s : String) : Bool := (Text.trim s.toList).isEmpty

end PatchTrial
