import PatchTrial.Shell.Tools.Awk.Value

/-!
Tables from keys to values, and the order in which their keys are listed.

Keys are kept in buckets by a hash of their text. Within a bucket the key that was used last comes
first. Keys that are whole numbers are kept in buckets of their own, by the number, until the keys
are listed or one is looked up that is a text.
-/
namespace PatchTrial.Shell.Tools.Awk

structure Table where
  entries : List (String × Value) := []
  /-- Keys with a hashed text, the one that was used last first. -/
  hashed : List String := []
  /-- Keys that were used as numbers, the one that was used last first. -/
  numbers : List Int := []
  /-- Whether keys are looked up by their texts. -/
  byText : Bool := false
  buckets : Nat := 64

/-- A key. -/
inductive Key where
  | number (n : Int)
  | text (s : String)
  deriving DecidableEq, Repr

def Key.spelling : Key → String
  | .number n => toString n
  | .text s => s

namespace Table

/-- The average length of buckets beyond which their number is doubled. -/
def maxAverage : Nat := 12

/-- The hash of a text: its octets are mixed in one by one. -/
def hashOf (s : String) : Nat :=
  s.toList.foldl (fun h c => ((h ^^^ c.toNat) * 16777619) % 0x100000000) 2166136261

def size (t : Table) : Nat := t.entries.length

def has (t : Table) (k : Key) : Bool := (t.entries.lookup k.spelling).isSome

/-- The bucket of a number. -/
def bucketOf (t : Table) (n : Int) : Nat := (n % t.buckets).toNat

/-- Give all keys a hashed text. -/
def withTexts (t : Table) : Table :=
  if t.byText then t
  else
    let inOrder := (List.range t.buckets).flatMap fun b => t.numbers.filter (t.bucketOf · = b)
    let hashed := inOrder.foldl (fun out n =>
      let s := toString n
      if out.contains s then out else s :: out) t.hashed
    { t with hashed := hashed, byText := true }

/-- Bring a key to the front. -/
def touch (t : Table) (k : Key) : Table :=
  match k with
  | .text s =>
    let t := t.withTexts
    { t with hashed := s :: t.hashed.erase s }
  | .number n =>
    if t.numbers.contains n then { t with numbers := n :: t.numbers.erase n }
    else
      let key := toString n
      let t := if t.byText then { t with hashed := key :: t.hashed.erase key } else t
      { t with numbers := n :: t.numbers }

/-- Look a key up, which brings it to the front. -/
def find (t : Table) (k : Key) : Option Value × Table :=
  match t.entries.lookup k.spelling with
  | some v => (some v, t.touch k)
  | none => (none, t)

/-- Set the value of a key. -/
def insert (t : Table) (k : Key) (v : Value) : Table :=
  let s := k.spelling
  if t.has k then
    let t := t.touch k
    { t with entries := t.entries.map fun e => if e.1 = s then (s, v) else e }
  else
    let t := { t.touch k with entries := (s, v) :: t.entries }
    if t.buckets * maxAverage < t.size then { t with buckets := 2 * t.buckets } else t

def erase (t : Table) (k : Key) : Table :=
  let s := k.spelling
  { t with
    entries := t.entries.filter (·.1 ≠ s)
    hashed := t.hashed.erase s
    numbers := t.numbers.filter (toString · ≠ s) }

/-- The keys, bucket by bucket. -/
def keys (t : Table) : List String × Table :=
  let t := t.withTexts
  let placed := t.hashed.map fun s => (hashOf s % t.buckets, s)
  ((placed.mergeSort fun a b => decide (a.1 ≤ b.1)).map (·.2), t)

/-- The table of a list, numbered from one. -/
def ofList (xs : List Value) : Table :=
  let places := (List.range xs.length).map (· + 1)
  { entries := (places.map toString).zip xs, numbers := (places.map Int.ofNat).reverse }

end Table

end PatchTrial.Shell.Tools.Awk
