import PatchTrial.Digest.Md5
import PatchTrial.Digest.Sha1
import PatchTrial.Digest.Sha512
import PatchTrial.Shell.Tools.Listing
import PatchTrial.Shell.Tools.Print

/-!
Tools that count what is in texts, and that make and check sums and digests of them.
-/
namespace PatchTrial.Shell.Tools

open Quoting (always ifNeeded)

/-! ### Counting -/

/-- The number of words in a text; a word has a character that can be printed. -/
def countWords (text : List Char) : Nat :=
  ((Text.pieces isSpace text).filter fun w => w.any Quoting.isPrintable).length

/-- The width of the longest line in columns. -/
def longestLine (text : List Char) : Nat :=
  let (longest, current) := text.foldl (fun (s : Nat × Nat) c =>
    let (longest, column) := s
    if c = '\n' || c = '\r' || c = Char.ofNat 12 then (max longest column, 0)
    else if c = '\t' then (longest, column + 8 - column % 8)
    else if Quoting.isPrintable c then (longest, column + 1)
    else (longest, column)) (0, 0)
  max longest current

/-- What is counted, in the order in which it is shown. -/
def countKeys : List String := ["l", "w", "m", "c", "L"]

def countOf (key : String) (text : List Char) : Nat :=
  match key with
  | "l" => text.count '\n'
  | "w" => countWords text
  | "L" => longestLine text
  | _ => text.length

/-- How many bytes a file is said to have before it is read. -/
def announcedSize (path : Option String) : Act (Option Nat) := do
  match path with
  | none =>
    match ← Act.channel? 0 with
    | some (.stream _ true) => return some (← Act.peek 0).length
    | _ => return none
  | some path =>
    match ← entryAt path with
    | some (.file content ..) => return some content.size
    | some _ => return none
    | none => return some 0

def wc : Tool := fun args =>
  withOptions "wc" "l|lines w|words m|chars c|bytes L|max-line-length files0-from: total:" args
    fun o => do
      let keys := countKeys.filter o.has
      let keys := if keys.isEmpty then ["l", "w", "c"] else keys
      let paths := if o.operands.isEmpty then ["-"] else o.operands
      let sizes ← paths.mapM fun path =>
        announcedSize (if path = "-" then none else some path)
      let total := (sizes.map (·.getD 0)).foldl (· + ·) 0
      let width := if paths.length = 1 && keys.length = 1 then 1
        else max (toString total).length (if sizes.contains none then 7 else 1)
      let show_ (ns : List Nat) (name : String) : Act Unit := do
        let texts := ns.map fun n => right width (toString n)
        Act.print (" ".intercalate texts ++ (if name.isEmpty then "" else " " ++ name) ++ "\n")
      let mut status := 0
      let mut totals := keys.map fun _ => 0
      for path in paths do
        let name := if o.operands.isEmpty then "" else path
        match ← contentOf path with
        | .error e =>
          status ← fail "wc" s!"{ifNeeded path}: {e.words}"
          if e = .isDirectory then show_ (keys.map fun _ => 0) name
        | .ok text =>
          let counts := keys.map (countOf · text)
          totals := (keys.zip (totals.zip counts)).map fun (key, a, b) =>
            if key = "L" then max a b else a + b
          show_ counts name
      if 1 < paths.length then show_ totals "total"
      return status

/-! ### Sums -/

/-- The remainder of a bit sequence, extended by one byte, by the polynomial of the sum. -/
def crcStep (crc : UInt32) (byte : Nat) : UInt32 :=
  let crc := crc ^^^ (UInt32.ofNat byte <<< 24)
  (List.range 8).foldl (fun (c : UInt32) _ =>
    if c &&& 0x80000000 != 0 then c <<< 1 ^^^ 0x04c11db7 else c <<< 1) crc

/-- The bytes of a length, the lowest first, without those above the highest that counts. -/
def lengthBytes : Nat → Nat → List Nat
  | 0, _ => []
  | fuel + 1, n => if n = 0 then [] else n % 256 :: lengthBytes fuel (n / 256)

def crc (text : List Char) : Nat :=
  let bytes := text.map Char.toNat ++ lengthBytes 16 text.length
  (~~~(bytes.foldl crcStep 0)).toNat

/-- A sum of 16 bits that is turned by one bit before each byte. -/
def turnedSum (text : List Char) : Nat :=
  text.foldl (fun s c => (s / 2 + s % 2 * 0x8000 + c.toNat) % 0x10000) 0

/-- A plain sum, folded to 16 bits. -/
def foldedSum (text : List Char) : Nat :=
  let s := text.foldl (fun s c => s + c.toNat) 0
  let r := s % 0x10000 + s % 0x100000000 / 0x10000
  r % 0x10000 + r / 0x10000

def sum : Tool := fun args =>
  withOptions "sum" "r s|sysv" args fun o =>
    forOperands (if o.operands.isEmpty then ["-"] else o.operands) fun path => do
      match ← contentOf path with
      | .error e => fail "sum" s!"{ifNeeded path}: {e.words}"
      | .ok text =>
        let name := if o.operands.isEmpty then "" else " " ++ path
        if o.last? ["r", "s"] = some "s" then
          Act.print s!"{foldedSum text} {(text.length + 511) / 512}{name}\n"
        else
          let digits := toString (turnedSum text)
          let zeros := String.ofList (List.replicate (5 - digits.length) '0')
          let blocks := right 5 (toString ((text.length + 1023) / 1024))
          Act.print s!"{zeros}{digits} {blocks}{name}\n"
        return 0

/-! ### Digests -/

/-- A way to make digests. -/
structure DigestKind where
  tool : String
  tag : String
  digest : ByteArray → String

def digestKinds : List DigestKind := [
  ⟨"md5sum", "MD5", Digest.md5⟩, ⟨"sha1sum", "SHA1", Digest.sha1⟩,
  ⟨"sha224sum", "SHA224", Digest.sha224⟩, ⟨"sha256sum", "SHA256", Digest.sha256⟩,
  ⟨"sha384sum", "SHA384", Digest.sha384⟩, ⟨"sha512sum", "SHA512", Digest.sha512⟩]

/-- A line of digests that is to be checked: the digest and the name. -/
def digestLine? (k : DigestKind) (line : List Char) : Option (String × String) :=
  let width := (k.digest .empty).length
  let isHex (c : Char) : Bool := inCharClass "xdigit" c
  let (digits, rest) := line.span isHex
  match rest with
  | ' ' :: mode :: name =>
    if digits.length = width && (mode = ' ' || mode = '*') && !name.isEmpty then
      some ((String.ofList digits).toLower, String.ofList name)
    else none
  | _ =>
    let lead := (k.tag ++ " (").toList
    if lead.isPrefixOf line then
      let rest := (line.drop lead.length).reverse
      let digits := rest.takeWhile isHex
      let tail := rest.drop digits.length
      let glue := ") = ".toList.reverse
      if digits.length = width && glue.isPrefixOf tail then
        some ((String.ofList digits.reverse).toLower, String.ofList (tail.drop glue.length).reverse)
      else none
    else none

/-- What came of checking the lines of a file. -/
structure Checked where
  proper : Nat := 0
  improper : Nat := 0
  failed : Nat := 0
  unreadable : Nat := 0

/-- How many of something there are, in words. -/
def counted (n : Nat) (one many : String) : String :=
  if n = 1 then s!"{n} {one}" else s!"{n} {many}"

/-- Check the digests that a file lists. -/
def checkDigests (k : DigestKind) (o : Options) (path : String) : Act Nat := do
  match ← contentOf path with
  | .error e => fail k.tool s!"{ifNeeded path}: {e.words}"
  | .ok text =>
    let mut c : Checked := {}
    let quiet := o.has "status"
    for line in (linesOf text).1 do
      match digestLine? k line with
      | none => c := { c with improper := c.improper + 1 }
      | some (wanted, name) =>
        c := { c with proper := c.proper + 1 }
        match ← contentOf name with
        | .error e =>
          if !(o.has "ignore-missing" && e = .notFound) then
            warnAs k.tool s!"{ifNeeded name}: {e.words}"
            if !quiet then Act.print s!"{name}: FAILED open or read\n"
            c := { c with unreadable := c.unreadable + 1 }
        | .ok text =>
          let ok := k.digest (Octets.toBytes text) = wanted
          if !ok then c := { c with failed := c.failed + 1 }
          if !quiet && !(ok && o.has "quiet") then
            Act.print (name ++ ": " ++ (if ok then "OK" else "FAILED") ++ "\n")
    let shown := if path = "-" then "'standard input'" else ifNeeded path
    if c.proper = 0 then
      return ← fail k.tool s!"{shown}: no properly formatted checksum lines found"
    if !quiet then
      if c.improper ≠ 0 then
        warnAs k.tool ("WARNING: " ++
          counted c.improper "line is improperly formatted" "lines are improperly formatted")
      if c.unreadable ≠ 0 then
        warnAs k.tool ("WARNING: " ++
          counted c.unreadable "listed file could not be read" "listed files could not be read")
      if c.failed ≠ 0 then
        warnAs k.tool ("WARNING: " ++
          counted c.failed "computed checksum did NOT match" "computed checksums did NOT match")
    return if c.failed = 0 && c.unreadable = 0 && !(o.has "strict" && c.improper ≠ 0) then 0 else 1

/-- Tell a digest. A name with a backslash or a line break is escaped, and the line is marked. -/
def digestText (k : DigestKind) (o : Options) (digest name : String) : String :=
  let escaped := name.contains '\\' || name.contains '\n'
  let name := (name.replace "\\" "\\\\").replace "\n" "\\n"
  let lead := if escaped && !o.has "z" then "\\" else ""
  let ending := if o.has "z" then "\x00" else "\n"
  if o.has "tag" then s!"{lead}{k.tag} ({name}) = {digest}{ending}"
  else
    let mode := if o.last? ["b", "t"] = some "b" then "*" else " "
    s!"{lead}{digest} {mode}{name}{ending}"

def digestTool (k : DigestKind) : Tool := fun args =>
  withOptions k.tool
    "b|binary c|check t|text tag z|zero ignore-missing quiet status strict w|warn" args fun o => do
      let paths := if o.operands.isEmpty then ["-"] else o.operands
      if o.has "c" then forOperands paths (checkDigests k o)
      else forOperands paths fun path => do
        match ← contentOf path with
        | .error e => fail k.tool s!"{ifNeeded path}: {e.words}"
        | .ok text =>
          Act.print (digestText k o (k.digest (Octets.toBytes text)) path)
          return 0

def cksum : Tool := fun args =>
  withOptions "cksum" "a|algorithm: c|check l|length: tag untagged z|zero" args fun o => do
    let kind := (o.value? "a").bind fun name => digestKinds.find? fun k => k.tag.toLower = name
    forOperands (if o.operands.isEmpty then ["-"] else o.operands) fun path => do
      match ← contentOf path with
      | .error e => fail "cksum" s!"{ifNeeded path}: {e.words}"
      | .ok text =>
        match kind with
        | some k =>
          let digest := k.digest (Octets.toBytes text)
          Act.print (if o.has "untagged" then s!"{digest}  {path}\n"
            else s!"{k.tag} ({path}) = {digest}\n")
        | none =>
          let name := if o.operands.isEmpty then "" else " " ++ path
          Act.print s!"{crc text} {text.length}{name}\n"
        return 0

end PatchTrial.Shell.Tools
