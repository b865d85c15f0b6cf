import PatchTrial.Json.Decode
import PatchTrial.Proofs.JsonText

/-!
# Records in JSON texts

A JSON value stores something in a text if the value fits into the text and is decoded to the same
thing once its numbers have been read. Values without parts do, floating-point numbers that are
read back from their own digits among them, and so do lists, maps and records of what does.

Main statements: `list?_reread`, `sortedMap?_reread` and `stores_record`.
-/
namespace PatchTrial.Json

variable {α : Type} {depth : Nat}

/-- What has no parts is no record. -/
theorem record?_of_readScalar? {cs rest : List Char} {j : Json} {names : List String}
    (h : readScalar? cs = some (j, rest)) : j.record? names = none := by
  unfold readScalar? at h
  split at h
  · cases h
    rfl
  · cases h
    rfl
  · cases h
    rfl
  · obtain ⟨⟨s, r⟩, -, hs⟩ := Option.map_eq_some_iff.mp h
    cases hs
    cases s <;> rfl
  · obtain ⟨⟨n, r⟩, -, hn⟩ := Option.map_eq_some_iff.mp h
    cases hn
    cases n <;> rfl

/-! ### Parts -/

theorem rereadItems_eq_map (items : List Json) : rereadItems items = items.map reread := by
  induction items with
  | nil => rfl
  | cons j js ih => rw [rereadItems, ih, List.map_cons]

theorem rereadFields_eq_map (fields : List (String × Json)) :
    rereadFields fields = fields.map fun f => (f.1, f.2.reread) := by
  induction fields with
  | nil => rfl
  | cons f fs ih => rw [rereadFields, ih, List.map_cons]

theorem itemsFit_iff {items : List Json} : ItemsFit depth items ↔ ∀ j ∈ items, j.Fits depth := by
  induction items with
  | nil => simp [ItemsFit]
  | cons j js ih => rw [ItemsFit, ih, List.forall_mem_cons]

theorem fieldsFit_iff {fields : List (String × Json)} :
    FieldsFit depth fields ↔ ∀ f ∈ fields, f.2.Fits depth := by
  induction fields with
  | nil => simp [FieldsFit]
  | cons f fs ih => rw [FieldsFit, ih, List.forall_mem_cons]

theorem reread_array (items : List Json) :
    (array items).reread = .array (items.map reread) := by
  rw [reread, rereadItems_eq_map]

theorem reread_object (fields : List (String × Json)) :
    (object fields).reread = .object (fields.map fun f => (f.1, f.2.reread)) := by
  rw [reread, rereadFields_eq_map]

@[simp] theorem fits_array {items : List Json} :
    (array items).Fits depth ↔ 0 < depth ∧ ∀ j ∈ items, j.Fits (depth - 1) := by
  rw [Fits, itemsFit_iff]

@[simp] theorem fits_object {fields : List (String × Json)} :
    (object fields).Fits depth ↔ 0 < depth ∧ ∀ f ∈ fields, f.2.Fits (depth - 1) := by
  rw [Fits, fieldsFit_iff]

mutual
theorem Fits.mono : ∀ {j : Json} {d e : Nat}, j.Fits d → d ≤ e → j.Fits e
  | .null, _, _, _, _ => trivial
  | .bool _, _, _, _, _ => trivial
  | .string _, _, _, _, _ => trivial
  | .number _, _, _, h, _ => h
  | .array _, _, _, h, hle =>
    ⟨Nat.lt_of_lt_of_le h.1 hle, ItemsFit.mono h.2 (Nat.sub_le_sub_right hle 1)⟩
  | .object _, _, _, h, hle =>
    ⟨Nat.lt_of_lt_of_le h.1 hle, FieldsFit.mono h.2 (Nat.sub_le_sub_right hle 1)⟩

theorem ItemsFit.mono : ∀ {js : List Json} {d e : Nat}, ItemsFit d js → d ≤ e → ItemsFit e js
  | [], _, _, _, _ => trivial
  | _ :: _, _, _, h, hle => ⟨Fits.mono h.1 hle, ItemsFit.mono h.2 hle⟩

theorem FieldsFit.mono : ∀ {fs : List (String × Json)} {d e : Nat},
    FieldsFit d fs → d ≤ e → FieldsFit e fs
  | [], _, _, _, _ => trivial
  | _ :: _, _, _, h, hle => ⟨Fits.mono h.1 hle, FieldsFit.mono h.2 hle⟩
end

/-! ### Values without parts -/

@[simp] theorem fits_string (s : String) : (string s).Fits depth := trivial

@[simp] theorem string?_reread (s : String) : string? (string s).reread = some s := rfl

@[simp] theorem fits_bool (b : Bool) : (Json.bool b).Fits depth := trivial

@[simp] theorem bool?_reread (b : Bool) : bool? (Json.bool b).reread = some b := rfl

theorem Number.reread_natural (n : UInt64) : (Number.natural n).reread = .natural n := by
  rw [Number.reread, readNumber?_natural]

theorem Number.reread_negative {n : Int64} (h : n < 0) :
    (Number.negative n).reread = .negative n := by
  rw [Number.reread, readNumber?_negative h]

theorem Number.isReadable_natural (n : UInt64) : (Number.natural n).IsReadable := by
  rw [IsReadable, reread_natural, readNumber?_natural]

theorem Number.isReadable_negative {n : Int64} (h : n < 0) : (Number.negative n).IsReadable := by
  rw [IsReadable, reread_negative h, readNumber?_negative h]

@[simp] theorem fits_nat (n : Nat) : (nat n).Fits depth := Number.isReadable_natural _

theorem reread_nat (n : Nat) : (nat n).reread = nat n := by
  rw [nat, reread, Number.reread_natural]

@[simp] theorem uint64?_reread (n : UInt64) : uint64? (nat n.toNat).reread = some n := by
  rw [reread_nat, nat, uint64?, UInt64.ofNat_toNat]

theorem uint32?_nat {n : Nat} (h : n < 0x100000000) :
    uint32? (nat n).reread = some (UInt32.ofNat n) := by
  have hvalue : (UInt64.ofNat n).toNat = n :=
    UInt64.toNat_ofNat_of_lt' (Nat.lt_trans h (by decide))
  have hword : (UInt64.ofNat n).toUInt32 = UInt32.ofNat n := by
    rw [← UInt32.toNat_inj, UInt64.toNat_toUInt32, hvalue, UInt32.toNat_ofNat']
  rw [reread_nat, nat, uint32?, if_pos (hvalue.symm ▸ h), hword]

@[simp] theorem uint32?_reread (n : UInt32) : uint32? (nat n.toNat).reread = some n := by
  rw [uint32?_nat n.toNat_lt, UInt32.ofNat_toNat]

/-- A 32-bit number in the range of 64-bit ones. -/
theorem int_negative {n : Int32} (h : n.toInt < 0) :
    ∃ m : Int64, m < 0 ∧ m.toInt = n.toInt ∧ int n.toInt = .number (.negative m) := by
  have hlow := n.le_toInt
  have hvalue : (Int64.ofInt n.toInt).toInt = n.toInt :=
    Int64.toInt_ofInt_of_le (by omega) (by omega)
  exact ⟨_, by rwa [Int64.lt_iff_toInt_lt, hvalue], hvalue, if_pos h⟩

@[simp] theorem fits_int32 (n : Int32) : (int n.toInt).Fits depth := by
  by_cases hneg : n.toInt < 0
  · obtain ⟨m, hm, -, hint⟩ := int_negative hneg
    rw [hint]
    exact Number.isReadable_negative hm
  · rw [int, if_neg hneg]
    exact fits_nat _

@[simp] theorem int32?_reread (n : Int32) : int32? (int n.toInt).reread = some n := by
  have hlow := n.le_toInt
  have hhigh := n.toInt_lt
  by_cases hneg : n.toInt < 0
  · obtain ⟨m, hm, hvalue, hint⟩ := int_negative hneg
    rw [hint, reread, Number.reread_negative hm, int32?, hvalue, if_pos (by omega),
      Int32.ofInt_toInt]
  · have hrange : n.toInt.toNat < UInt64.size := by
      rw [UInt64.size]
      omega
    have hvalue : (UInt64.ofNat n.toInt.toNat).toNat = n.toInt.toNat :=
      UInt64.toNat_ofNat_of_lt' hrange
    have hback : Int32.ofNat n.toInt.toNat = n := by
      rw [← Int32.ofInt_eq_ofNat, Int.toNat_of_nonneg (by omega), Int32.ofInt_toInt]
    rw [int, if_neg hneg, reread_nat, nat, int32?, hvalue, if_pos (by omega), hback]

/-! ### Floating-point numbers -/

/-- Whether a double is read back from its shortest digits. -/
def DoubleReadsBack (x : Float) : Prop :=
  readNumber? (Number.double x).text = some (some (.double x), [])

/-- Whether a number of single width is the one nearest to what its shortest digits are read as. -/
def SingleReadsBack (x : Float32) : Prop :=
  (readNumber? (Number.single x).text).map (fun (n, rest) => (n.map Number.toFloat32, rest)) =
    some (some x, [])

instance (x : Float) : Decidable (DoubleReadsBack x) := inferInstanceAs (Decidable (_ = _))

instance (x : Float32) : Decidable (SingleReadsBack x) := inferInstanceAs (Decidable (_ = _))

theorem Number.reread_double {x : Float} (h : DoubleReadsBack x) :
    (Number.double x).reread = .double x := by
  rw [Number.reread, h]

theorem Number.isReadable_double {x : Float} (h : DoubleReadsBack x) :
    (Number.double x).IsReadable := by
  rw [IsReadable, reread_double h, h]

theorem fits_double {x : Float} (h : DoubleReadsBack x) : (double x).Fits depth :=
  Number.isReadable_double h

theorem float?_reread {x : Float} (h : DoubleReadsBack x) : float? (double x).reread = some x := by
  rw [double, reread, Number.reread_double h]
  rfl

theorem SingleReadsBack.exists_number {x : Float32} (h : SingleReadsBack x) :
    ∃ n, readNumber? (Number.single x).text = some (some n, []) ∧ n.toFloat32 = x := by
  obtain ⟨⟨n?, rest⟩, hread, heq⟩ := Option.map_eq_some_iff.mp h
  obtain ⟨hn, rfl⟩ := Prod.mk.inj heq
  obtain ⟨n, rfl, hback⟩ := Option.map_eq_some_iff.mp hn
  exact ⟨n, hread, hback⟩

theorem fits_single {x : Float32} (h : SingleReadsBack x) : (single x).Fits depth := by
  obtain ⟨n, hread, -⟩ := h.exists_number
  rw [single, Fits, Number.IsReadable, Number.reread, hread]

theorem float32?_reread {x : Float32} (h : SingleReadsBack x) :
    float32? (single x).reread = some x := by
  obtain ⟨n, hread, hback⟩ := h.exists_number
  rw [single, reread, Number.reread, hread, float32?, hback]

/-! ### Lists and maps -/

theorem fits_map {write : α → Json} {xs : List α} (h : ∀ x ∈ xs, (write x).Fits depth) :
    (array (xs.map write)).Fits (depth + 1) := by
  refine fits_array.mpr ⟨Nat.succ_pos depth, fun j hj => ?_⟩
  obtain ⟨x, hx, rfl⟩ := List.mem_map.mp hj
  exact h x hx

theorem list?_reread {write : α → Json} {read : Json → Option α} {xs : List α}
    (h : ∀ x ∈ xs, read (write x).reread = some x) :
    list? read (array (xs.map write)).reread = some xs := by
  rw [reread_array, List.map_map]
  exact mapM_map_eq_some h

@[simp] theorem fits_strings (ss : List String) : (strings ss).Fits (depth + 1) :=
  fits_map fun s _ => fits_string s

@[simp] theorem list?_strings (ss : List String) :
    list? string? (strings ss).reread = some ss := list?_reread fun _ _ => rfl

/-- A map is read back with all its entries. -/
theorem sortedMap?_reread {write : α → Json} {read : Json → Option α} {m : SortedMap α}
    (h : ∀ e ∈ m.entries, read (write e.2).reread = some e.2) :
    sortedMap? read (object (m.entries.map fun e => (e.1, write e.2))).reread = some m := by
  have hentries : ((m.entries.map fun e => (e.1, write e.2)).map
      fun f => (f.1, f.2.reread)).mapM
        (fun f : String × Json => (read f.2).map fun x => (f.1, x)) = some m.entries := by
    rw [List.map_map]
    refine mapM_map_eq_some fun e he => ?_
    change (read (write e.2).reread).map _ = _
    rw [h e he]
    rfl
  rw [reread_object, sortedMap?, hentries, Option.map_some, SortedMap.ofList_entries]

/-! ### Records -/

/-- Whether a value that fits into a text is read as `x` from it. -/
structure Stores (read : Json → Option α) (depth : Nat) (j : Json) (x : α) : Prop where
  fits : j.Fits depth
  read : read j.reread = some x

/-- A record with all its fields under their names. -/
theorem record?_reread {fields : List (String × Json)} {names : List String}
    (hnames : fields.map (·.1) = names) (hdistinct : names.Nodup) :
    (object fields).reread.record? names =
      some ⟨fields.map fun f => (f.1, f.2.reread), false⟩ := by
  have hkeys : (fields.map fun f => (f.1, f.2.reread)).map (·.1) = names := by
    rw [← hnames, List.map_map]
    rfl
  have hknown : ((fields.map fun f => (f.1, f.2.reread)).filter fun f => names.contains f.1) =
      fields.map fun f => (f.1, f.2.reread) := by
    refine List.filter_eq_self.mpr fun f hf => ?_
    rw [← hkeys, List.contains_iff_mem]
    exact List.mem_map_of_mem hf
  rw [reread_object, record?]
  simp only [hknown, hkeys, if_pos hdistinct]

/-- What is built from the fields of a record. -/
theorem stores_record {fields : List (String × Json)} {names : List String}
    {build : Record → Option α} {x : α} (hnames : fields.map (·.1) = names)
    (hdistinct : names.Nodup) (hfits : ∀ f ∈ fields, f.2.Fits depth)
    (hbuild : build ⟨fields.map fun f => (f.1, f.2.reread), false⟩ = some x) :
    Stores (fun j => (j.record? names).bind build) (depth + 1) (.object fields) x := by
  refine ⟨fits_object.mpr ⟨Nat.succ_pos depth, hfits⟩, ?_⟩
  rw [record?_reread hnames hdistinct]
  exact hbuild

theorem fits_orNull {write : α → Json} {o : Option α} (h : ∀ x ∈ o, (write x).Fits depth) :
    (orNull write o).Fits depth := by
  cases o with
  | none => trivial
  | some x => exact h x rfl

namespace Record

variable {k name : String} {j : Json} {fields : List (String × Json)} {positional : Bool}
  {read : Json → Option α}

theorem optional_of_ne (h : name ≠ k) :
    optional ⟨(k, j) :: fields, positional⟩ name read =
      optional ⟨fields, positional⟩ name read := by
  rw [optional, optional, List.lookup_cons, beq_false_of_ne h]

/-- A value that may be absent. -/
theorem optional_self {write : α → Json} {o : Option α}
    (h : ∀ x ∈ o, read (write x).reread = some x) (hnull : ∀ x, (write x).reread ≠ .null) :
    optional ⟨(k, (orNull write o).reread) :: fields, positional⟩ k read = some o := by
  rw [optional, List.lookup_cons, beq_self_eq_true]
  cases o with
  | none => rfl
  | some x =>
    dsimp only [orNull]
    split
    next heq => cases heq
    next heq => exact absurd (Option.some.inj heq) (hnull x)
    next heq => rw [← Option.some.inj heq, h x rfl, Option.map_some]

theorem optional_string {o : Option String} :
    optional ⟨(k, (orNull .string o).reread) :: fields, positional⟩ k string? = some o :=
  optional_self (fun _ _ => rfl) (fun _ h => by cases h)

end Record

end PatchTrial.Json
