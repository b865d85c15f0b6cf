import PatchTrial.Decimal.Nearest
import PatchTrial.Json.Basic

/-!
Decoding of JSON values.

A record is read from an object, where unknown fields are ignored and a known field must not be
repeated, or from an array that lists the values of its first fields in order. A name out of a
fixed list is read from a string, or from an object with that one key and the value `null`.
-/
namespace PatchTrial.Json

/-- The known fields of a record, and whether they were given by position. -/
structure Record where
  fields : List (String × Json)
  byPosition : Bool

/-- Open a record with the known fields `names`. -/
def record? (names : List String) : Json → Option Record
  | .object fields =>
    let known := fields.filter fun f => names.contains f.1
    if (known.map (·.1)).Nodup then some ⟨known, false⟩ else none
  | .array items => if items.length ≤ names.length then some ⟨names.zip items, true⟩ else none
  | _ => none

namespace Record

variable {α : Type}

/-- A field that must be there. -/
def required (r : Record) (name : String) (read : Json → Option α) : Option α :=
  (r.fields.lookup name).bind read

/-- A field that stands for `default` when it is missing. -/
def withDefault (r : Record) (name : String) (read : Json → Option α) (default : α) : Option α :=
  match r.fields.lookup name with
  | none => some default
  | some j => read j

/-- A field that may be missing or `null`. -/
def optional (r : Record) (name : String) (read : Json → Option α) : Option (Option α) :=
  match r.fields.lookup name with
  | none => some none
  | some .null => some none
  | some j => (read j).map some

/-- A field that may be `null`, or missing from a record whose fields are named. -/
def nullable (r : Record) (name : String) (read : Json → Option α) : Option (Option α) :=
  if r.byPosition && (r.fields.lookup name).isNone then none else r.optional name read

end Record

def string? : Json → Option String
  | .string s => some s
  | _ => none

def bool? : Json → Option Bool
  | .bool b => some b
  | _ => none

def uint64? : Json → Option UInt64
  | .number (.natural n) => some n
  | _ => none

def uint32? : Json → Option UInt32
  | .number (.natural n) => if n.toNat < 0x100000000 then some n.toUInt32 else none
  | _ => none

def int32? : Json → Option Int32
  | .number (.natural n) => if n.toNat < 0x80000000 then some (Int32.ofNat n.toNat) else none
  | .number (.negative n) => if -0x80000000 ≤ n.toInt then some (Int32.ofInt n.toInt) else none
  | _ => none

/-- The double nearest to a number. -/
def Number.toFloat : Number → Float
  | .natural n => n.toFloat
  | .negative n => n.toFloat
  | .double x => x
  | .single x => x.toFloat

/-- The single-width number nearest to a number. -/
def Number.toFloat32 : Number → Float32
  | .natural n => n.toFloat32
  | .negative n => n.toFloat32
  | .double x => (Decimal.ofFloat x).toFloat32
  | .single x => x

def float? : Json → Option Float
  | .number n => some n.toFloat
  | _ => none

def float32? : Json → Option Float32
  | .number n => some n.toFloat32
  | _ => none

def list? {α : Type} (read : Json → Option α) : Json → Option (List α)
  | .array items => items.mapM read
  | _ => none

/-- A name out of a fixed list. -/
def name? {α : Type} (ofName? : String → Option α) : Json → Option α
  | .string s => ofName? s
  | .object [(s, .null)] => ofName? s
  | _ => none

/-- A name out of a fixed list in a value that was read whole before its kind was known. There an
empty object may stand for `null`. -/
def bufferedName? {α : Type} (ofName? : String → Option α) : Json → Option α
  | .object [(s, .object [])] => ofName? s
  | j => name? ofName? j

/-- A map with text keys, the last value of a repeated key counting. -/
def sortedMap? {α : Type} (read : Json → Option α) : Json → Option (SortedMap α)
  | .object fields =>
    (fields.mapM fun f => (read f.2).map fun x => (f.1, x)).map SortedMap.ofList
  | _ => none

end PatchTrial.Json
