import PatchTrial.Decimal.Directive
import PatchTrial.Regex.Reader

/-!
Words and signs of programs that work on records.

A slash starts an expression to look for, unless it stands where something can be divided.
-/
namespace PatchTrial.Shell.Tools.Awk

inductive Token where
  | number (x : Float) (spelling : String)
  | text (s : String)
  | regex (r : Regex) (spelling : String)
  | name (s : String)
  /-- A name with a parenthesis right behind it. -/
  | function (s : String)
  /-- A word of the language. -/
  | word (s : String)
  | sign (s : String)
  | newline
  | finish
  deriving Inhabited

/-- Why a program cannot be used. -/
inductive Fault where
  | unexpected (text : String)
  | missing (sign text : String)
  | missingBrace
  | runawayText (start : String)
  | runawayRegex (start : String)
  | badCharacter (c : Char)
  | badRegex (fault : Regex.Fault) (text : String)
  | undefined (name : String)
  | noArguments (name : String)
  | wrongArguments (name : String)
  | returnOutside
  | outsideLoop (word : String)
  | improper (word : String)

/-- How a fault of an expression is told. -/
def regexFault : Regex.Fault → String
  | .unmatchedOpen => "missing ')'"
  | .unmatchedClose => "missing '('"
  | .nothingToRepeat => "missing operand"
  | _ => "bad class -- [], [^] or ["

def Fault.message : Fault → String
  | .unexpected text => s!"syntax error at or near {text}"
  | .missing sign text => s!"missing {sign} near {text}"
  | .missingBrace => "missing \x7d near end of file"
  | .runawayText start => s!"runaway string constant \"{start} ..."
  | .runawayRegex start => s!"runaway regular expression /{start} ..."
  | .badCharacter c =>
    if ' ' ≤ c && c ≤ '~' then s!"unexpected character '{c}'"
    else "unexpected character 0x" ++ String.ofList (Nat.toDigits 16 c.toNat)
  | .badRegex fault text =>
    let cause := regexFault fault
    s!"regular expression compile failed ({cause})\n{text}"
  | .undefined name => s!"function {name} never defined"
  | .noArguments name => s!"no arguments in call to {name}"
  | .wrongArguments name => s!"wrong number of arguments in call to {name}"
  | .returnOutside => "return outside function body"
  | .outsideLoop word => s!"{word} statement outside of loop"
  | .improper word => s!"improper use of {word}"

/-- A fault and the line of the program. -/
abbrev Complaint := Fault × Nat

/-- Functions of the language, and how many arguments they have. -/
def builtins : List (String × Nat × Nat) := [
  ("atan2", 2, 2), ("close", 1, 1), ("cos", 1, 1), ("exp", 1, 1), ("fflush", 0, 1), ("gsub", 2, 3),
  ("index", 2, 2), ("int", 1, 1), ("length", 0, 1), ("log", 1, 1), ("match", 2, 2), ("rand", 0, 0),
  ("sin", 1, 1), ("split", 2, 3), ("sprintf", 1, 255), ("sqrt", 1, 1), ("srand", 0, 1),
  ("sub", 2, 3), ("substr", 2, 3), ("system", 1, 1), ("tolower", 1, 1), ("toupper", 1, 1)]

def keywords : List String :=
  ["BEGIN", "END", "function", "if", "else", "while", "for", "do", "break", "continue", "next",
    "nextfile", "exit", "return", "delete", "in", "getline", "print", "printf"]

/-- Signs, the longer ones before their starts. -/
def signs : List String :=
  ["&&", "||", "!~", "==", "<=", ">=", "!=", "++", "--", "+=", "-=", "*=", "/=", "%=", "^=", ">>",
    "\x7b", "\x7d", "(", ")", "[", "]", ";", ",", "+", "-", "*", "/", "%", "^", "!", ">", "<", "|",
    "?", ":", "~", "$", "="]

/-- What a token is called in messages. -/
def Token.spelling : Token → String
  | .number _ s => s
  | .text s => s
  | .regex _ s => s!"/{s}/"
  | .name s => s
  | .function s => s
  | .word s => s
  | .sign s => s
  | .newline => "end of line"
  | .finish => "end of file"

/-- Whether something can be divided that ends with a token. -/
def Token.isOperand : Token → Bool
  | .number .. | .text _ | .regex .. | .name _ => true
  | .word s => s = "length"
  | .sign s => [")", "]", "++", "--", "$"].contains s
  | _ => false

/-- The text that is meant by one that is written with backslashes. -/
def unescape : Nat → List Char → List Char
  | 0, cs => cs
  | _ + 1, [] => []
  | fuel + 1, '\\' :: c :: cs =>
    let digits := ((c :: cs).take 3).takeWhile fun d => '0' ≤ d && d ≤ '7'
    let isHex (d : Char) : Bool := d.isDigit || ('a' ≤ d.toLower && d.toLower ≤ 'f')
    let hex := (cs.take 2).takeWhile isHex
    let worth (base : Nat) (ds : List Char) : Char :=
      let value (d : Char) : Nat :=
        if d.isDigit then d.toNat - '0'.toNat else d.toLower.toNat - 'a'.toNat + 10
      Char.ofNat (ds.foldl (fun n d => n * base + value d) 0 % 256)
    if c = '\n' then unescape fuel cs
    else if !digits.isEmpty then
      worth 8 digits :: unescape fuel ((c :: cs).drop digits.length)
    else if c = 'x' && !hex.isEmpty then worth 16 hex :: unescape fuel (cs.drop hex.length)
    else
      match Regex.controlChar? c with
      | some d => d :: unescape fuel cs
      | none =>
        if c = '"' || c = '\\' then c :: unescape fuel cs
        else '\\' :: c :: unescape fuel cs
  | fuel + 1, c :: cs => c :: unescape fuel cs

def unescaped (s : String) : String := String.ofList (unescape (s.length + 1) s.toList)

/-- What stands before an unescaped sign, and what stands behind it; none if the line ends first. -/
def untilSign (sign : Char) : Nat → List Char → Option (List Char × List Char)
  | 0, _ => none
  | _ + 1, [] => none
  | fuel + 1, '\\' :: c :: cs => (untilSign sign fuel cs).map fun (a, b) => ('\\' :: c :: a, b)
  | fuel + 1, c :: cs =>
    if c = sign then some ([], cs)
    else if c = '\n' then none
    else (untilSign sign fuel cs).map fun (a, b) => (c :: a, b)

/-- An expression up to its closing slash; one in brackets does not close it. -/
def untilSlash : Nat → Bool → List Char → Option (List Char × List Char)
  | 0, _, _ => none
  | _ + 1, _, [] => none
  | fuel + 1, inSet, '\\' :: c :: cs =>
    (untilSlash fuel inSet cs).map fun (a, b) => (if c = '/' then c :: a else '\\' :: c :: a, b)
  | fuel + 1, inSet, c :: cs =>
    if c = '\n' then none
    else if c = '/' && !inSet then some ([], cs)
    else
      let lead := if c = '[' && !inSet then
          let up := if cs.head? = some '^' then 1 else 0
          if (cs.drop up).head? = some ']' then up + 1 else up
        else 0
      let inSet := if c = '[' then true else inSet && c ≠ ']'
      (untilSlash fuel inSet (cs.drop lead)).map fun (a, b) => (c :: cs.take lead ++ a, b)

def isNameChar (c : Char) : Bool := c.isAlphanum || c == '_'

/-- The tokens of a program, each with its line. -/
def tokens : Nat → Nat → Token → List Char → Except Complaint (List (Token × Nat))
  | 0, line, _, _ => .ok [(.finish, line)]
  | _ + 1, line, _, [] => .ok [(.finish, line)]
  | fuel + 1, line, last, c :: cs => do
    let add (t : Token) (rest : List Char) (lines : Nat := 0) :
        Except Complaint (List (Token × Nat)) := do
      return (t, line) :: (← tokens fuel (line + lines) t rest)
    if c = ' ' || c = '\t' || c = '\r' then tokens fuel line last cs
    else if c = '\n' then add .newline cs 1
    else if c = '#' then tokens fuel line last (cs.dropWhile (· ≠ '\n'))
    else if c = '\\' && (cs.dropWhile (· == '\r')).head? = some '\n' then
      tokens fuel (line + 1) last (cs.dropWhile (· ≠ '\n') |>.drop 1)
    else if c = '"' then
      match untilSign '"' (cs.length + 1) cs with
      | none => .error (.runawayText (String.ofList ((cs.takeWhile (· ≠ '\n')).take 10)), line)
      | some (body, rest) =>
        add (.text (unescaped (String.ofList body))) rest (body.count '\n')
    else if c = '/' && !last.isOperand then
      match untilSlash (cs.length + 1) false cs with
      | none => .error (.runawayRegex (String.ofList ((cs.takeWhile (· ≠ '\n')).take 10)), line)
      | some (body, rest) =>
        match Regex.ofNotation .records body with
        | .error f => .error (.badRegex f (String.ofList body), line)
        | .ok r => add (.regex r (String.ofList body)) rest
    else if c.isDigit || (c = '.' && (cs.head?).any Char.isDigit) then
      match Decimal.readNumeral? (c :: cs) with
      | none => .error (.badCharacter c, line)
      | some (x, rest) =>
        add (.number x (String.ofList ((c :: cs).take (cs.length + 1 - rest.length)))) rest
    else if isNameChar c then
      let (body, rest) := (c :: cs).span isNameChar
      let name := String.ofList body
      let name := if name = "func" then "function" else name
      if keywords.contains name || (builtins.lookup name).isSome then add (.word name) rest
      else if rest.head? = some '(' then add (.function name) rest
      else add (.name name) rest
    else
      match signs.find? fun s => s.toList.isPrefixOf (c :: cs) with
      | some s => add (.sign s) ((c :: cs).drop s.length)
      | none => .error (.badCharacter c, line)

end PatchTrial.Shell.Tools.Awk
