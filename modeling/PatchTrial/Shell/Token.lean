import PatchTrial.Shell.Command

/-!
The signs and reserved words of the shell language, and faults in scripts.

Lines are counted from the end of a text, so that the rest of it is enough to tell where one is.
-/
namespace PatchTrial.Shell

/-- Why a script cannot be parsed. -/
inductive Fault where
  | unexpected (token : String)
  | expecting (token wanted : String)
  | unterminatedQuote
  | unterminatedBackquote
  | missingParens
  | missingBrace
  | badForVariable
  | badFunctionName
  deriving DecidableEq, Repr

namespace Fault

def message : Fault → String
  | .unexpected t => s!"Syntax error: {t} unexpected"
  | .expecting t w => s!"Syntax error: {t} unexpected (expecting {w})"
  | .unterminatedQuote => "Syntax error: Unterminated quoted string"
  | .unterminatedBackquote => "Syntax error: EOF in backquote substitution"
  | .missingParens => "Syntax error: Missing '))'"
  | .missingBrace => "Syntax error: Missing '\x7d'"
  | .badForVariable => "Syntax error: Bad for loop variable"
  | .badFunctionName => "Syntax error: Bad function name"

end Fault

/-- A fault and the line on which it was found. -/
structure Mistake where
  fault : Fault
  line : Nat

/-- Something read at the start of a text, with what follows it. -/
abbrev Parsed (α : Type) := α × List Char

def isNameStart (c : Char) : Bool := c.isAlpha || c == '_'

def isNameChar (c : Char) : Bool := c.isAlphanum || c == '_'

/-- Characters that end a word that is not quoted. -/
def isMeta (c : Char) : Bool :=
  c == ' ' || c == '\t' || c == '\n' || c == ';' || c == '&' || c == '|' || c == '<' ||
    c == '>' || c == '(' || c == ')'

/-- How many lines end in a text. A mark stands for a line that was taken out of it. -/
def lineCount (cs : List Char) : Nat := cs.count '\n' + cs.count '\x00'

/-- The number of the line at which `rest` starts, where lines are counted up to `total`. -/
def lineOf (total : Nat) (rest : List Char) : Nat := total + 1 - lineCount rest

/-- A fault found at the end of the text. -/
def atEnd {α : Type} (total : Nat) (f : Fault) : Except Mistake α := .error ⟨f, total + 1⟩

/-- Skip blanks, continued lines, marks of lines that were taken out and a comment. -/
def skipBlank : List Char → List Char
  | '\x00' :: cs => skipBlank cs
  | ' ' :: cs => skipBlank cs
  | '\t' :: cs => skipBlank cs
  | '\\' :: '\n' :: cs => skipBlank cs
  | '#' :: cs => cs.dropWhile (· != '\n')
  | cs => cs

/-- Skip blanks, comments and line breaks. -/
def skipBreaks : Nat → List Char → List Char
  | 0, cs => cs
  | fuel + 1, cs =>
    match skipBlank cs with
    | '\n' :: rest => skipBreaks fuel rest
    | rest => rest

def skipAll (cs : List Char) : List Char := skipBreaks cs.length cs

/-- The words with a meaning of their own at the start of a command. -/
def reserved : List String :=
  ["if", "then", "else", "elif", "fi", "do", "done", "case", "esac", "while", "until", "for",
    "\x7b", "\x7d", "!", "in"]

/-- Commands of the shell that no function can take the place of. -/
def specialNames : List String :=
  [":", ".", "break", "continue", "eval", "exec", "exit", "export", "local", "readonly", "return",
    "set", "shift", "times", "trap", "unset"]

/-- The reserved word at the start of a text, with the rest. -/
def reserved? (cs : List Char) : Option (String × List Char) :=
  let (w, rest) := cs.span fun c => !isMeta c
  let w := String.ofList w
  if reserved.contains w then some (w, rest) else none

/-- The operators, those before others of which they are not the start. -/
def operators : List String := [";;", ";", "&&", "&", "||", "|", "(", ")"]

/-- The signs of redirections, those before others of which they are not the start. -/
def redirectionSigns : List String := ["<<-", "<<", "<&", "<>", "<", ">>", ">&", ">|", ">"]

/-- The text behind the sign of a redirection, which may have a digit before it. -/
def dropRedirection? (cs : List Char) : Option (List Char) :=
  let signs := match cs with
    | d :: rest => if d.isDigit then rest else cs
    | [] => []
  (redirectionSigns.find? fun s => s.toList.isPrefixOf signs).map fun s => signs.drop s.length

/-- The text after the operator, the redirection or the line break at its start. -/
def dropOperator (cs : List Char) : List Char :=
  match cs, operators.find? fun op => op.toList.isPrefixOf cs with
  | _, some op => cs.drop op.length
  | '\n' :: rest, none => rest
  | _, none => (dropRedirection? cs).getD cs

/-- The name of the token at the start of a text, for messages, where no reserved word is
recognized. -/
def plainTokenName (cs : List Char) : String :=
  let cs := skipBlank cs
  match cs, operators.find? fun op => op.toList.isPrefixOf cs with
  | [], _ => "end of file"
  | _, some op => "\"" ++ op ++ "\""
  | '\n' :: _, _ => "newline"
  | _, _ => if (dropRedirection? cs).isSome then "redirection" else "word"

/-- The name of the token at the start of a text, for messages. -/
def tokenName (cs : List Char) : String :=
  match reserved? (skipBlank cs) with
  | some (w, _) => "\"" ++ w ++ "\""
  | none => plainTokenName cs

/-- What is left after a token that was not wanted; only a line break can end a line. -/
def afterToken (cs : List Char) : List Char :=
  match skipBlank cs with
  | '\n' :: rest => rest
  | rest => rest

def unexpected {α : Type} (total : Nat) (cs : List Char) : Except Mistake α :=
  .error ⟨.unexpected (tokenName cs), lineOf total (afterToken cs)⟩

def expecting {α : Type} (total : Nat) (wanted : String) (cs : List Char) : Except Mistake α :=
  .error ⟨.expecting (tokenName cs) ("\"" ++ wanted ++ "\""), lineOf total (afterToken cs)⟩

/-- Want an operator behind a word, where no reserved word is recognized. -/
def expectingAfterWord {α : Type} (total : Nat) (wanted : String) (cs : List Char) :
    Except Mistake α :=
  .error ⟨.expecting (plainTokenName cs) ("\"" ++ wanted ++ "\""), lineOf total (afterToken cs)⟩

/-- Consume a reserved word that must come next. -/
def expectWord (total : Nat) (w : String) (cs : List Char) : Except Mistake (List Char) :=
  let cs := skipAll cs
  match reserved? cs with
  | some (v, rest) =>
    if v = w then .ok rest else expecting total w cs
  | none => expecting total w cs

end PatchTrial.Shell
