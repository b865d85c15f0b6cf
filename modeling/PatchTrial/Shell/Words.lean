import PatchTrial.Shell.Token

/-!
Reading words of the shell language.

A word ends at a blank or an operator that is not quoted. Inside double quotes only parameters,
substitutions and the backslash keep their meaning; a here-text is read in the same way. Commands
in a word are read by a function that is given.
-/
namespace PatchTrial.Shell

/-- Parameters with a name of one special character. -/
def isSpecialParam (c : Char) : Bool :=
  c == '@' || c == '*' || c == '#' || c == '?' || c == '-' || c == '$' || c == '!'

/-- The text up to a backquote, without the backslashes that only protect characters from it or, in
double quotes, from those. -/
def upToBackquote (quoted : Bool) : List Char → Option (List Char × List Char)
  | [] => none
  | '\x60' :: cs => some ([], cs)
  | '\\' :: c :: cs =>
    let protects := c == '\x60' || c == '\\' || c == '$' || (quoted && c == '"')
    (upToBackquote quoted cs).map fun (a, b) =>
      (if protects then (c :: a, b) else ('\\' :: c :: a, b))
  | c :: cs => (upToBackquote quoted cs).map fun (a, b) => (c :: a, b)

/-- Where a text of parts ends. -/
inductive Ending where
  /-- At a character that ends a word. -/
  | word
  | doubleQuote
  | brace (quoted : Bool)
  /-- At two parentheses that close an expression, with more to close before that. -/
  | sum (depth : Nat)
  /-- With the text. -/
  | never
  deriving DecidableEq, Repr

/-- Whether parts that are read so count as quoted. -/
def Ending.quoted : Ending → Bool
  | .word => false
  | .brace q => q
  | _ => true

/-- The operator of a parameter in braces. -/
def paramUse? : List Char → Option (ParamUse × List Char)
  | ':' :: '-' :: cs => some (.orElse true, cs)
  | '-' :: cs => some (.orElse false, cs)
  | ':' :: '=' :: cs => some (.assign true, cs)
  | '=' :: cs => some (.assign false, cs)
  | ':' :: '?' :: cs => some (.require true, cs)
  | '?' :: cs => some (.require false, cs)
  | ':' :: '+' :: cs => some (.ifSet true, cs)
  | '+' :: cs => some (.ifSet false, cs)
  | '%' :: '%' :: cs => some (.cutEnd true, cs)
  | '%' :: cs => some (.cutEnd false, cs)
  | '#' :: '#' :: cs => some (.cutStart true, cs)
  | '#' :: cs => some (.cutStart false, cs)
  | _ => none

/-- The name of a parameter at the start of a text. -/
def paramName? (cs : List Char) : Option (String × List Char) :=
  match cs with
  | [] => none
  | c :: rest =>
    if isNameStart c then
      let (name, rest) := cs.span isNameChar
      some (String.ofList name, rest)
    else if c.isDigit then
      let (name, rest) := cs.span Char.isDigit
      some (String.ofList name, rest)
    else if isSpecialParam c then some (String.singleton c, rest)
    else none

/-- Reads the commands at the start of a text in which lines are counted up to a number. -/
abbrev CommandReader := Nat → List Char → Except Mistake (Parsed Command)

variable (inner : CommandReader) (total : Nat)

mutual
/-- Read parts up to where `e` says. The ending itself is not consumed. -/
def readParts (fuel : Nat) (e : Ending) (cs : List Char) : Except Mistake (Parsed Word) :=
  match fuel with
  | 0 => atEnd total .unterminatedQuote
  | fuel + 1 =>
    let q := e.quoted
    let upTo (e : Ending) (p : List Part) (rest : List Char) : Except Mistake (Parsed Word) := do
      let (ps, rest) ← readParts fuel e rest
      return (p ++ ps, rest)
    let more := upTo e
    let isSum : Bool := match e with
      | .sum _ => true
      | _ => false
    match cs with
    | [] =>
      match e with
      | .word | .never => .ok ([], [])
      | .doubleQuote => atEnd total .unterminatedQuote
      | .brace _ => atEnd total .missingBrace
      | .sum _ => atEnd total .missingParens
    | '\\' :: '\n' :: rest => more [] rest
    | '\\' :: c :: rest =>
      if !q || c == '$' || c == '\x60' || c == '\\' || (c == '"' && e != .never) ||
          (c == '}' && e == .brace true) then
        more [.text [c] true] rest
      else more [.text ['\\', c] true] rest
    | '\'' :: rest =>
      if q then more [.text ['\''] true] rest
      else
        match rest.span (· != '\'') with
        | (s, '\'' :: rest) => more [.text s true] rest
        | _ => atEnd total .unterminatedQuote
    | '"' :: rest =>
      if e == .doubleQuote then .ok ([], cs)
      else if e == .never || isSum then more [.text ['"'] true] rest
      else do
        let (ps, rest) ← readParts fuel .doubleQuote rest
        more (.text [] true :: ps) (rest.drop 1)
    | '\x60' :: rest =>
      match upToBackquote q rest with
      | some (source, rest) => do
        let (commands, _) ← inner (lineCount source) source
        more [.output commands q] rest
      | none => atEnd total .unterminatedBackquote
    | '$' :: rest => do
      let (p, rest) ← readDollar fuel q rest
      more [p] rest
    | c :: rest =>
      match e, c, rest with
      | .sum depth, '(', _ => upTo (.sum (depth + 1)) [.text [c] q] rest
      | .sum 0, ')', ')' :: _ => .ok ([], cs)
      | .sum depth, ')', _ => upTo (.sum (depth - 1)) [.text [c] q] rest
      | _, _, _ =>
      if (e == .word && isMeta c) || (c == '}' && (e == .brace true || e == .brace false)) then
        .ok ([], cs)
      else more [.text [c] q] rest

/-- Read what follows a dollar sign. -/
def readDollar (fuel : Nat) (q : Bool) (cs : List Char) : Except Mistake (Parsed Part) :=
  match fuel with
  | 0 => atEnd total .unterminatedQuote
  | fuel + 1 =>
    match cs with
    | '(' :: '(' :: rest => do
      let (expr, rest) ← readParts fuel (.sum 0) rest
      return (.sum expr q, rest.drop 2)
    | '(' :: rest => do
      let (commands, rest) ← inner total rest
      match skipAll rest with
      | ')' :: rest => return (.output commands q, rest)
      | rest => expecting total ")" rest
    | '{' :: '#' :: rest =>
      match paramName? rest with
      | some (name, '}' :: rest) => .ok (.param name .length [] q, rest)
      | _ => readBraced fuel q ('#' :: rest)
    | '{' :: rest => readBraced fuel q rest
    | c :: rest =>
      if c.isDigit then .ok (.param (String.singleton c) .plain [] q, rest)
      else
        match paramName? cs with
        | some (name, rest) => .ok (.param name .plain [] q, rest)
        | none => .ok (.text ['$'] q, cs)
    | [] => .ok (.text ['$'] q, [])

/-- Read a parameter in braces, after the opening one. -/
def readBraced (fuel : Nat) (q : Bool) (cs : List Char) : Except Mistake (Parsed Part) :=
  match fuel with
  | 0 => atEnd total .unterminatedQuote
  | fuel + 1 =>
    let upToBrace (name : String) (use : ParamUse) (rest : List Char) :
        Except Mistake (Parsed Part) := do
      let (arg, rest) ← readParts fuel (.brace (q && !use.takesPattern)) rest
      return (.param name use arg q, rest.drop 1)
    match paramName? cs with
    | none => upToBrace "" .invalid cs
    | some (name, '}' :: rest) => .ok (.param name .plain [] q, rest)
    | some (name, ':' :: '}' :: rest) => upToBrace name .plain rest
    | some (name, rest) =>
      match paramUse? rest with
      | none => upToBrace name .invalid rest
      | some (use, rest) => upToBrace name use rest
end

/-- Read a word at the start of a text. -/
def readWord (cs : List Char) : Except Mistake (Parsed Word) :=
  readParts inner total (2 * cs.length + 4) .word cs

/-- The parts of a text in which only parameters, substitutions and backslashes have a meaning. -/
def readText (cs : List Char) : Except Mistake (Parsed Word) :=
  readParts inner total (2 * cs.length + 4) .never cs

end PatchTrial.Shell
