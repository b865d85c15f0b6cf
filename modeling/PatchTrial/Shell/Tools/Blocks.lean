import PatchTrial.Shell.Tools.Files

/-!
Copying in blocks.

Operands of the form `name=value` say what is copied, in blocks of which size and how many, and how
it is converted. Some of the input can be passed over first, and some of the output kept.
-/
namespace PatchTrial.Shell.Tools.Blocks

open Quoting (always)

/-- What is to be copied, and how. -/
structure Order where
  source : Option String := none
  target : Option String := none
  inputBlock : Nat := 512
  outputBlock : Nat := 512
  count : Option Nat := none
  skipped : Nat := 0
  kept : Nat := 0
  conversions : List String := []
  /-- How much is told at the end: `none`, `noxfer` or all. -/
  status : String := ""

/-- What is wrong with an operand. -/
inductive Fault where
  | unknown (operand : String)
  | badNumber (text : String)
  | badConversion (text : String)
  | badStatus (text : String)
  deriving DecidableEq, Repr

/-- A number that may be a product of numbers with suffixes. -/
def number? (text : String) : Option Nat :=
  (text.splitOn "x").foldl (fun n part => do return (← n) * (← size? part)) (some 1)

def knownConversions : List String :=
  ["notrunc", "ucase", "lcase", "swab", "sync", "noerror", "excl", "nocreat", "fsync", "fdatasync"]

/-- An order with one more operand. -/
def Order.add (o : Order) (operand : String) : Except Fault Order := do
  match Text.splitAt? '=' operand.toList with
  | none => throw (.unknown operand)
  | some (name, value) =>
    let value := String.ofList value
    let number : Except Fault Nat := match number? value with
      | some n => .ok n
      | none => .error (.badNumber value)
    let size : Except Fault Nat := do
      let n ← number
      if n = 0 then throw (.badNumber value) else return n
    match String.ofList name with
    | "if" => return { o with source := some value }
    | "of" => return { o with target := some value }
    | "bs" =>
      let n ← size
      return { o with inputBlock := n, outputBlock := n }
    | "ibs" => return { o with inputBlock := ← size }
    | "obs" => return { o with outputBlock := ← size }
    | "count" => return { o with count := some (← number) }
    | "skip" => return { o with skipped := ← number }
    | "iseek" => return { o with skipped := ← number }
    | "seek" => return { o with kept := ← number }
    | "oseek" => return { o with kept := ← number }
    | "conv" =>
      let asked := value.splitOn ","
      match asked.find? (!knownConversions.contains ·) with
      | some unknown => throw (.badConversion unknown)
      | none => return { o with conversions := o.conversions ++ asked }
    | "status" =>
      if ["none", "noxfer", "progress"].contains value then return { o with status := value }
      else throw (.badStatus value)
    | "iflag" => return o
    | "oflag" => return o
    | "cbs" => return o
    | _ => throw (.unknown operand)

/-- Each two octets in the opposite order. -/
def swapped : List Char → List Char
  | a :: b :: rest => b :: a :: swapped rest
  | cs => cs

/-- A text as it is to be written. -/
def Order.converted (o : Order) (text : List Char) : List Char :=
  let has (name : String) : Bool := o.conversions.contains name
  let text := if has "swab" then swapped text else text
  let text := if has "ucase" then text.map Char.toUpper else text
  let text := if has "lcase" then text.map Char.toLower else text
  if has "sync" then
    let missing := (o.inputBlock - text.length % o.inputBlock) % o.inputBlock
    text ++ List.replicate missing (Char.ofNat 0)
  else text

/-- What a file that was there before is like with a text written over it. -/
def Order.placed (o : Order) (before : ByteArray) (bytes : ByteArray) : ByteArray :=
  let start := o.kept * o.outputBlock
  let gap : ByteArray := ⟨(List.replicate (start - before.size) (0 : UInt8)).toArray⟩
  let behind := if o.conversions.contains "notrunc" then
    before.extract (start + bytes.size) before.size else .empty
  before.extract 0 start ++ gap ++ bytes ++ behind

/-- The numbers of full and of partial blocks. -/
def records (block size : Nat) : String :=
  let partly := if size % block = 0 then 0 else 1
  s!"{size / block}+{partly} records"

/-- Tell how much was copied. -/
def Order.report (o : Order) (taken written : Nat) : Act Unit := do
  if o.status ≠ "none" then
    let into := records o.inputBlock taken
    let out := records o.outputBlock written
    Act.warn (into ++ " in")
    Act.warn (out ++ " out")
    if o.status ≠ "noxfer" then
      let unit := if written = 1 then "byte" else "bytes"
      Act.warn s!"{written} {unit} copied, 0 s, Infinity B/s"

/-- The input, as far as it is taken. -/
def Order.input (o : Order) : Act (Except OsError (List Char)) := do
  let start := o.skipped * o.inputBlock
  match o.source, o.count with
  | some path, count => do
    match ← fileContent path with
    | .error e => return .error e
    | .ok text =>
      let rest := text.drop start
      return .ok (match count with
        | some n => rest.take (n * o.inputBlock)
        | none => rest)
  | none, none => do
    match ← contentOf "-" with
    | .ok text => return .ok (text.drop start)
    | .error e => return .error e
  | none, some n => do
    let text := (← Act.peek 0).take (start + n * o.inputBlock)
    Act.consume 0 text.length 1
    return .ok (text.drop start)

end Blocks

def dd : Tool := fun args => do
  let operands := if args.head? = some "--" then args.tail else args
  let order := operands.foldlM (fun o operand => o.add operand) ({} : Blocks.Order)
  match order with
  | .error (.unknown operand) => misuse "dd" s!"unrecognized operand {Quoting.always operand}"
  | .error (.badNumber text) => fail "dd" s!"invalid number: {Quoting.always text}"
  | .error (.badConversion text) => misuse "dd" s!"invalid conversion: {Quoting.text text}"
  | .error (.badStatus text) => misuse "dd" s!"invalid status level: {Quoting.text text}"
  | .ok o => do
    match ← o.input with
    | .error e =>
      let path := o.source.getD ""
      fail "dd" s!"failed to open {Quoting.always path}: {e.words}"
    | .ok text => do
      let text := if o.count = some 0 then [] else text
      let out := o.converted text
      match o.target with
      | none =>
        emit out
        o.report text.length out.length
        return 0
      | some path =>
        let before ← match ← entryAt path with
          | some (.file content ..) => pure content
          | _ => pure .empty
        if path = "/dev/stdout" then
          emit out
          o.report text.length out.length
          return 0
        else if path = "/dev/null" then
          o.report text.length out.length
          return 0
        else
          let here := (← Act.process).here
          let content := o.placed before (Octets.toBytes out)
          match ← Act.change fun t => t.write here path content with
          | .ok () =>
            o.report text.length out.length
            return 0
          | .error e => fail "dd" s!"failed to open {Quoting.always path}: {e.words}"

end PatchTrial.Shell.Tools
