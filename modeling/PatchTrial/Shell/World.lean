import PatchTrial.Files.Tree

/-!
The world that commands act on.

All texts in it are octet texts: names of files, what is read, and what commands say.

Time passes only while something sleeps or waits. What a background job does at once happens when
it is started; what it does later is kept with the job and happens when the time has come, unless
the job has been ended before. Everything that was done is kept in a log with its time, so that a
world can be cut off at a deadline.
-/
namespace PatchTrial.Shell

/-- Something that was done to the world. -/
inductive Effect where
  | files (change : FileTree → FileTree)
  /-- Bytes written to a numbered output. -/
  | output (slot : Nat) (bytes : ByteArray)

/-- A process in the background. -/
structure Job where
  pid : Nat
  /-- The shell that started it. -/
  owner : Nat
  endsAt : Nat
  status : Nat
  /-- The signal that ended it. -/
  signal : Option Nat := none
  later : List (Nat × Effect)
  /-- The outputs that it keeps open. -/
  holds : List Nat

structure World where
  files : FileTree
  /-- The time in milliseconds. -/
  clock : Nat
  /-- Texts that are being read. -/
  streams : List (List Char)
  /-- What was written to the numbered outputs. -/
  slots : List ByteArray
  nextPid : Nat
  jobs : List Job
  /-- What was done, the latest first. -/
  log : List (Nat × Effect)

namespace World

def ofFiles (files : FileTree) (input : List Char) : World :=
  ⟨files, 0, [input], [ByteArray.empty, ByteArray.empty], 4242, [], []⟩

def apply (w : World) : Effect → World
  | .files change => { w with files := change w.files }
  | .output slot bytes =>
    { w with slots := w.slots.modify slot (· ++ bytes) }

/-- Do something now. -/
def perform (w : World) (e : Effect) : World :=
  { w.apply e with log := (w.clock, e) :: w.log }

/-- Let time pass until `time`, and with it what jobs do in the meantime. -/
def advanceTo (w : World) (time : Nat) : World :=
  let due := (w.jobs.flatMap fun j => j.later.filter (·.1 ≤ time)).mergeSort
    fun a b => decide (a.1 ≤ b.1)
  let w := due.foldl (fun w x => ({ w with clock := max w.clock x.1 } : World).perform x.2) w
  { w with
    clock := max w.clock time
    jobs := w.jobs.map fun j => { j with later := j.later.filter (time < ·.1) } }

/-- A new text to read. -/
def addStream (w : World) (text : List Char) : World × Nat :=
  ({ w with streams := w.streams ++ [text] }, w.streams.length)

/-- A new numbered output. -/
def addSlot (w : World) : World × Nat :=
  ({ w with slots := w.slots ++ [ByteArray.empty] }, w.slots.length)

def slot (w : World) (n : Nat) : ByteArray := w.slots[n]?.getD ByteArray.empty

/-- Let time pass until no job keeps an output open. -/
def drain (w : World) (slot : Nat) : World :=
  w.advanceTo ((w.jobs.filter (·.holds.contains slot)).foldl (fun t j => max t j.endsAt) w.clock)

/-- What was done since an earlier state of the world, the earliest first. -/
def doneSince (start w : World) : List (Nat × Effect) :=
  (w.log.take (w.log.length - start.log.length)).reverse

/-- As many outputs as another world has, the new ones empty. -/
def withSlotsOf (w other : World) : World :=
  { w with slots := w.slots ++
      List.replicate (other.slots.length - w.slots.length) ByteArray.empty }

/-- The world at a deadline: of what was done since `start`, only what was done until then. -/
def cutOff (start : World) (deadline : Nat) (w : World) : World :=
  let s := (doneSince start w).foldl (fun (s : World) x =>
    if x.1 ≤ deadline then ({ s with clock := x.1 } : World).perform x.2 else s)
    (start.withSlotsOf w)
  { s with clock := deadline, nextPid := w.nextPid }

end World

end PatchTrial.Shell
