/-!
Names in messages.

A name is shown in the way in which it could be written for a shell. It is put between quotes, or
between double quotes if it has a quote and nothing that double quotes would not protect; what
cannot be printed stands as an escape outside of the quotes. Other texts are put between quotes, in
which escapes stand for what cannot be printed.
-/
namespace PatchTrial.Shell.Quoting

def isPrintable (c : Char) : Bool := ' ' ≤ c && c ≤ '~'

/-- The letter of an escape. -/
def escapeLetter? (c : Char) : Option Char :=
  [(7, 'a'), (8, 'b'), (9, 't'), (10, 'n'), (11, 'v'), (12, 'f'), (13, 'r')].lookup c.toNat

/-- Three octal digits. -/
def octalDigits (n : Nat) : List Char :=
  [n / 64, n / 8 % 8, n % 8].map fun d => Char.ofNat ('0'.toNat + d)

/-- The escape of a character that cannot be printed. -/
def escape (c : Char) : List Char :=
  match escapeLetter? c with
  | some letter => ['\\', letter]
  | none => '\\' :: octalDigits c.toNat

/-- Whether a character at a position has a meaning for a shell. -/
def isSpecial (name : List Char) (i : Nat) (c : Char) : Bool :=
  " !\"$&()*;<=>[^\x60|'\\?".contains c || ((c = '#' || c = '~') && i = 0) ||
    ((c = '\x7b' || c = '\x7d') && name.length = 1) || !isPrintable c

/-- Whether a character means the same between double quotes. -/
def isSafeInDouble (i : Nat) (c : Char) : Bool :=
  c.isAlphanum || " %+,-./:]_'".contains c || ((c = '#' || c = '~') && i = 0)

/-- The characters of a name between quotes; `outside` while they are being left for escapes. -/
def quotedChars (outside : Bool) : List Char → List Char
  | [] => ['\'']
  | c :: cs =>
    if isPrintable c then
      (if outside then ['\'', '\''] else []) ++
        (if c = '\'' then ['\'', '\\', '\'', '\''] else [c]) ++ quotedChars false cs
    else (if outside then [] else ['\'', '$', '\'']) ++ escape c ++ quotedChars true cs

/-- A name in quotes, in any case. -/
def always (name : String) : String :=
  let cs := name.toList
  if cs.contains '\'' && (cs.mapIdx isSafeInDouble).all id then "\"" ++ name ++ "\""
  else String.ofList ('\'' :: quotedChars false cs)

/-- A name as it is, unless a shell would read something else into it. -/
def ifNeeded (name : String) : String :=
  let cs := name.toList
  if cs.isEmpty || (cs.mapIdx (isSpecial cs)).any id then always name else name

/-- A text in quotes. -/
def text (s : String) : String :=
  String.ofList ('\'' :: (s.toList.flatMap fun c =>
    if c = '\'' || c = '\\' then ['\\', c] else if isPrintable c then [c] else escape c) ++ ['\''])

end PatchTrial.Shell.Quoting
