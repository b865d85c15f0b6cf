/-!
Signals by number and name.
-/
namespace PatchTrial.Shell.Signal

/-- Names and descriptions of the signals, the first one's number being 1. -/
def table : List (String × String) := [
  ("HUP", "Hangup"), ("INT", "Interrupt"), ("QUIT", "Quit"), ("ILL", "Illegal instruction"),
  ("TRAP", "Trace/breakpoint trap"), ("ABRT", "Aborted"), ("BUS", "Bus error"),
  ("FPE", "Floating point exception"), ("KILL", "Killed"), ("USR1", "User defined signal 1"),
  ("SEGV", "Segmentation fault"), ("USR2", "User defined signal 2"), ("PIPE", "Broken pipe"),
  ("ALRM", "Alarm clock"), ("TERM", "Terminated"), ("STKFLT", "Stack fault"),
  ("CHLD", "Child exited"), ("CONT", "Continued"), ("STOP", "Stopped (signal)"),
  ("TSTP", "Stopped"), ("TTIN", "Stopped (tty input)"), ("TTOU", "Stopped (tty output)"),
  ("URG", "Urgent I/O condition"), ("XCPU", "CPU time limit exceeded"),
  ("XFSZ", "File size limit exceeded"), ("VTALRM", "Virtual timer expired"),
  ("PROF", "Profiling timer expired"), ("WINCH", "Window changed"), ("IO", "I/O possible"),
  ("PWR", "Power failure"), ("SYS", "Bad system call")]

def interrupt : Nat := 2
def kill : Nat := 9
def pipe : Nat := 13
def terminate : Nat := 15
def fileSize : Nat := 25

/-- The name of a signal; zero stands for the end of a shell. -/
def name (n : Nat) : String :=
  if n = 0 then "EXIT"
  else match table[n - 1]? with
    | some (name, _) => name
    | none => toString n

def description (n : Nat) : String :=
  match table[n - 1]? with
  | some (_, text) => text
  | none => s!"Unknown signal {n}"

/-- The number of a signal that is given by number or by name. -/
def number? (s : String) : Option Nat :=
  if !s.isEmpty && s.all Char.isDigit then
    let n := Nat.ofDigitChars 10 s.toList 0
    if n ≤ 64 then some n else none
  else
    let s := s.toUpper
    if s = "EXIT" then some 0
    else (table.findIdx? (·.1 = s)).map (· + 1)

/-- Signals that do nothing unless they are caught. -/
def isHarmless (n : Nat) : Bool := [17, 18, 23, 28].contains n

/-- Signals that bring a process to a halt without ending it. -/
def isHalting (n : Nat) : Bool := [19, 20, 21, 22].contains n

end PatchTrial.Shell.Signal
