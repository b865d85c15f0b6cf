import PatchTrial.Shell.Tools.Sed.Run

/-!
The tool that edits texts by a script.

The script is made of all that is given for it; if nothing is, it is the first operand.
-/
namespace PatchTrial.Shell.Tools

namespace Sed

def forms : String :=
  "n|quiet|silent e|expression: f|file: E|regexp-extended r s|separate i|in-place? " ++
    "l|line-length: u|unbuffered z|null-data|zero-terminated posix debug sandbox " ++
    "follow-symlinks b|binary"

/-- How the tool is called. -/
def usage : String :=
  "Usage: sed [OPTION]... \x7bscript-only-if-no-other-script\x7d [input-file]...\n\n" ++
    "  -n, --quiet, --silent\n" ++
    "                 suppress automatic printing of pattern space\n" ++
    "      --debug\n" ++
    "                 annotate program execution\n" ++
    "  -e script, --expression=script\n" ++
    "                 add the script to the commands to be executed\n" ++
    "  -f script-file, --file=script-file\n" ++
    "                 add the contents of script-file to the commands to be executed\n" ++
    "  --follow-symlinks\n" ++
    "                 follow symlinks when processing in place\n" ++
    "  -i[SUFFIX], --in-place[=SUFFIX]\n" ++
    "                 edit files in place (makes backup if SUFFIX supplied)\n" ++
    "  -l N, --line-length=N\n" ++
    "                 specify the desired line-wrap length for the \x60l' command\n" ++
    "  --posix\n" ++
    "                 disable all GNU extensions.\n" ++
    "  -E, -r, --regexp-extended\n" ++
    "                 use extended regular expressions in the script\n" ++
    "                 (for portability use POSIX -E).\n" ++
    "  -s, --separate\n" ++
    "                 consider files as separate rather than as a single,\n" ++
    "                 continuous long stream.\n" ++
    "      --sandbox\n" ++
    "                 operate in sandbox mode (disable e/r/w commands).\n" ++
    "  -u, --unbuffered\n" ++
    "                 load minimal amounts of data from the input files and flush\n" ++
    "                 the output buffers more often\n" ++
    "  -z, --null-data\n" ++
    "                 separate lines by NUL characters\n" ++
    "      --help     display this help and exit\n" ++
    "      --version  output version information and exit\n\n" ++
    "If no -e, --expression, -f, or --file option is given, then the first\n" ++
    "non-option argument is taken as the sed script to interpret.  All\n" ++
    "remaining arguments are names of input files; if no input files are\n" ++
    "specified, then the standard input is read.\n\n"

/-- The pieces of a script in the order in which they were given, the arguments numbered. -/
def pieces : Nat → List (String × String) → Act (Except String (List (Origin × List Char)))
  | _, [] => return .ok []
  | n, (key, value) :: rest => do
    if key = "e" then
      return (← pieces (n + 1) rest).map ((.argument (n + 1), value.toList) :: ·)
    else
      match ← contentOf value with
      | .error e => return .error s!"couldn't open file {value}: {e.words}"
      | .ok text => return (← pieces n rest).map ((.file value, text) :: ·)

end Sed

def sed (start : Starter) : Tool := fun args => do
  match Options.read (optionForms (Sed.forms ++ " help version")) false {} args with
  | .error fault =>
    warnAs "sed" fault.message
    discard (Act.write 2 Sed.usage.toUTF8)
    return 1
  | .ok o =>
    if o.has "help" then
      Act.print Sed.usage
      return 0
    if o.has "version" then
      Act.print "sed (GNU sed) 4.9\n"
      return 0
    let given := o.given.filterMap fun (k, v) =>
      if k = "e" || k = "f" then some (k, v.getD "") else none
    let (given, files) := match given, o.operands with
      | [], script :: files => ([("e", script)], files)
      | given, files => (given, files)
    if given.isEmpty then
      discard (Act.write 2 Sed.usage.toUTF8)
      return 1
    match ← Sed.pieces 0 given with
    | .error text =>
      warnAs "sed" text
      return 4
    | .ok pieces =>
      match Sed.readScript (o.has "E" || o.has "r") (o.has "sandbox") pieces with
      | .error complaint =>
        warnAs "sed" complaint.message
        return complaint.status
      | .ok script =>
        let inPlace := o.value? "i"
        let setup : Sed.Setup := {
          script := script
          quiet := o.has "n" || script.quiet
          separate := o.has "s" || inPlace.isSome
          inPlace := inPlace
          terminator := if o.has "z" then Char.ofNat 0 else '\n'
          width := ((o.value? "l").bind natural?).getD 70
          start := start }
        Sed.edit setup (if files.isEmpty then ["-"] else files)

end PatchTrial.Shell.Tools
