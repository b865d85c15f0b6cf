import PatchTrial.Proofs.JsonRecord

/-!
# Free values in JSON texts

A free value is one that a field takes whatever it is: its fields are sorted, none of them twice,
and its numbers are whole numbers and doubles. It is read back as it was if its doubles are and it
is not nested too deeply.

Main statement: `IsFree.readsBack`.
-/
namespace PatchTrial.Json

variable {depth : Nat}

mutual
/-- How many arrays and objects are within one another. -/
def nesting : Json → Nat
  | .array items => itemsNesting items + 1
  | .object fields => fieldsNesting fields + 1
  | _ => 0

def itemsNesting : List Json → Nat
  | [] => 0
  | j :: js => max (nesting j) (itemsNesting js)

def fieldsNesting : List (String × Json) → Nat
  | [] => 0
  | (_, j) :: rest => max (nesting j) (fieldsNesting rest)
end

mutual
/-- The parts of a value that have no parts. -/
def leaves : Json → List Json
  | .array items => itemLeaves items
  | .object fields => fieldLeaves fields
  | j => [j]

def itemLeaves : List Json → List Json
  | [] => []
  | j :: js => leaves j ++ itemLeaves js

def fieldLeaves : List (String × Json) → List Json
  | [] => []
  | (_, j) :: rest => leaves j ++ fieldLeaves rest
end

/-- The doubles of a value. -/
def doubles (j : Json) : List Float :=
  j.leaves.filterMap fun
    | .number (.double x) => some x
    | _ => none

/-- Whether a part without parts can stand in a free value, where a whole number is natural if it
can be, and any other number is a double. -/
def IsFreeLeaf : Json → Prop
  | .null => True
  | .bool _ => True
  | .string _ => True
  | .number (.natural _) => True
  | .number (.negative n) => n < 0
  | .number (.double _) => True
  | _ => False

/-- Whether a value can be held as it is by a field that takes any value. -/
structure IsFree (j : Json) : Prop where
  canonical : j.canonical = j
  leaves : ∀ l ∈ j.leaves, l.IsFreeLeaf

/-! ### Reading them back -/

mutual
theorem fits_of_leaves : ∀ {j : Json} {d : Nat},
    (∀ l ∈ j.leaves, l.Fits 0) → j.nesting ≤ d → j.Fits d
  | .unusable, _, h, _ => h .unusable List.mem_cons_self
  | .null, _, _, _ => trivial
  | .bool _, _, _, _ => trivial
  | .string _, _, _, _ => trivial
  | .number n, _, h, _ => h (.number n) List.mem_cons_self
  | .array _, _, h, hd =>
    ⟨Nat.lt_of_lt_of_le (Nat.succ_pos _) hd, itemsFit_of_leaves h (Nat.le_sub_one_of_lt hd)⟩
  | .object _, _, h, hd =>
    ⟨Nat.lt_of_lt_of_le (Nat.succ_pos _) hd, fieldsFit_of_leaves h (Nat.le_sub_one_of_lt hd)⟩

theorem itemsFit_of_leaves : ∀ {js : List Json} {d : Nat},
    (∀ l ∈ itemLeaves js, l.Fits 0) → itemsNesting js ≤ d → ItemsFit d js
  | [], _, _, _ => trivial
  | _ :: _, _, h, hd =>
    ⟨fits_of_leaves (fun l hl => h l (List.mem_append_left _ hl)) (Nat.max_le.mp hd).1,
      itemsFit_of_leaves (fun l hl => h l (List.mem_append_right _ hl)) (Nat.max_le.mp hd).2⟩

theorem fieldsFit_of_leaves : ∀ {fs : List (String × Json)} {d : Nat},
    (∀ l ∈ fieldLeaves fs, l.Fits 0) → fieldsNesting fs ≤ d → FieldsFit d fs
  | [], _, _, _ => trivial
  | (_, _) :: _, _, h, hd =>
    ⟨fits_of_leaves (fun l hl => h l (List.mem_append_left _ hl)) (Nat.max_le.mp hd).1,
      fieldsFit_of_leaves (fun l hl => h l (List.mem_append_right _ hl)) (Nat.max_le.mp hd).2⟩
end

mutual
theorem reread_of_leaves : ∀ {j : Json}, (∀ l ∈ j.leaves, l.reread = l) → j.reread = j
  | .unusable, _ => rfl
  | .null, _ => rfl
  | .bool _, _ => rfl
  | .string _, _ => rfl
  | .number n, h => h (.number n) List.mem_cons_self
  | .array _, h => congrArg array (rereadItems_of_leaves h)
  | .object _, h => congrArg object (rereadFields_of_leaves h)

theorem rereadItems_of_leaves : ∀ {js : List Json},
    (∀ l ∈ itemLeaves js, l.reread = l) → rereadItems js = js
  | [], _ => rfl
  | _ :: _, h => congrArg₂ List.cons
    (reread_of_leaves fun l hl => h l (List.mem_append_left _ hl))
    (rereadItems_of_leaves fun l hl => h l (List.mem_append_right _ hl))

theorem rereadFields_of_leaves : ∀ {fs : List (String × Json)},
    (∀ l ∈ fieldLeaves fs, l.reread = l) → rereadFields fs = fs
  | [], _ => rfl
  | (k, _) :: _, h => congrArg₂ (fun j rest => (k, j) :: rest)
    (reread_of_leaves fun l hl => h l (List.mem_append_left _ hl))
    (rereadFields_of_leaves fun l hl => h l (List.mem_append_right _ hl))
end

mutual
theorem isUsable_of_fits : ∀ {j : Json} {d : Nat}, j.Fits d → j.isUsable = true
  | .null, _, _ => rfl
  | .bool _, _, _ => rfl
  | .string _, _, _ => rfl
  | .number _, _, _ => rfl
  | .array _, _, h => areUsable_of_fit h.2
  | .object _, _, h => haveUsable_of_fit h.2

theorem areUsable_of_fit : ∀ {js : List Json} {d : Nat}, ItemsFit d js → areUsable js = true
  | [], _, _ => rfl
  | _ :: _, _, h => Bool.and_eq_true_iff.mpr ⟨isUsable_of_fits h.1, areUsable_of_fit h.2⟩

theorem haveUsable_of_fit : ∀ {fs : List (String × Json)} {d : Nat},
    FieldsFit d fs → haveUsable fs = true
  | [], _, _ => rfl
  | (_, _) :: _, _, h => Bool.and_eq_true_iff.mpr ⟨isUsable_of_fits h.1, haveUsable_of_fit h.2⟩
end

theorem IsFreeLeaf.readsBack : ∀ {l : Json}, l.IsFreeLeaf →
    (∀ x, l = .number (.double x) → DoubleReadsBack x) → l.Fits 0 ∧ l.reread = l
  | .null, _, _ => ⟨trivial, rfl⟩
  | .bool _, _, _ => ⟨trivial, rfl⟩
  | .string _, _, _ => ⟨trivial, rfl⟩
  | .number (.natural n), _, _ =>
    ⟨Number.isReadable_natural n, congrArg number (Number.reread_natural n)⟩
  | .number (.negative _), h, _ =>
    ⟨Number.isReadable_negative h, congrArg number (Number.reread_negative h)⟩
  | .number (.double x), _, h =>
    ⟨Number.isReadable_double (h x rfl), congrArg number (Number.reread_double (h x rfl))⟩

/-- A free value is read back as it was. -/
theorem IsFree.readsBack {j : Json} (h : j.IsFree) (hdoubles : ∀ x ∈ j.doubles, DoubleReadsBack x)
    (hdepth : j.nesting ≤ depth) : j.Fits depth ∧ j.reread = j := by
  have hleaves : ∀ l ∈ j.leaves, l.Fits 0 ∧ l.reread = l := by
    intro l hl
    refine (h.leaves l hl).readsBack fun x hx => hdoubles x ?_
    subst hx
    exact List.mem_filterMap.mpr ⟨_, hl, rfl⟩
  exact ⟨fits_of_leaves (fun l hl => (hleaves l hl).1) hdepth,
    reread_of_leaves fun l hl => (hleaves l hl).2⟩

end PatchTrial.Json
