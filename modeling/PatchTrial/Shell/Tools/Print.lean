import PatchTrial.Shell.Tools.Format

/-!
Tools that print their arguments, as they are or by a format.
-/
namespace PatchTrial.Shell.Tools

/-- What stands behind a backslash: a letter, or a number after a zero or an `x`, or itself. -/
def echoEscape (cs : List Char) : Escape × List Char :=
  match cs with
  | 'x' :: rest =>
    match hexadecimal 2 rest with
    | (0, _, _) => (.text ['\\'], cs)
    | (_, n, rest) => (.text [octet n], rest)
  | cs => textEscape cs

/-- The letters of the options before the texts, and the texts. -/
def echoOptions : List String → List Char × List String
  | [] => ([], [])
  | arg :: rest =>
    match arg.toList with
    | '-' :: c :: cs =>
      if (c :: cs).all ['n', 'e', 'E'].contains then
        let (letters, texts) := echoOptions rest
        (c :: cs ++ letters, texts)
      else ([], arg :: rest)
    | _ => ([], arg :: rest)

def echo : Tool := fun args => do
  if args = ["--help"] then
    Act.print "Usage: echo [SHORT-OPTION]... [STRING]...\n"
    return 0
  let (letters, texts) := echoOptions args
  let joined := " ".intercalate texts
  let escapes := (letters.reverse.find? (['e', 'E'].contains ·)) = some 'e'
  let (text, ended) := if escapes then unescapeText echoEscape joined else (joined.toList, none)
  emit (if letters.contains 'n' || ended.isSome then text else text ++ ['\n'])
  return 0

/-- What is wrong with an argument or a format, in the words of the tool. -/
def FormatFault.words : FormatFault → String
  | .partly arg => Quoting.text arg ++ ": value not completely converted"
  | .outOfRange arg => Quoting.text arg ++ ": Numerical result out of range"
  | .nothing arg => Quoting.text arg ++ ": expected a numeric value"
  | .behindQuote rest =>
    s!"warning: {rest}: character(s) following character constant have been ignored"
  | .noKind directive => s!"%{directive}: invalid conversion specification"
  | .unknownKind directive => s!"%{directive}: invalid conversion specification"
  | .unfinished => "missing hexadecimal number in escape"

def printf : Tool := fun args => do
  let args := match args with
    | "--" :: rest => rest
    | args => args
  match args with
  | [] => misuse "printf" "missing operand"
  | ["--help"] =>
    Act.print "Usage: printf FORMAT [ARGUMENT]...\n"
    return 0
  | format :: args =>
    let p := printed .tool format args
    emit p.text
    for fault in p.faults do
      warnAs "printf" fault.words
    if !p.ended && !p.args.isEmpty && !p.took then
      warnAs "printf" ("warning: ignoring excess arguments, starting with " ++
        Quoting.text (p.args.headD ""))
    let isWarning : FormatFault → Bool
      | .behindQuote _ => true
      | _ => false
    return if p.faults.all isWarning then 0 else 1

end PatchTrial.Shell.Tools
