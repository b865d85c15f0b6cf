/-!
Maps with text keys, kept in ascending order of their keys.

Order is by code point. `SortedMap.insert` replaces an entry of the same key, so a map read from
a list of entries holds the last value of each key.
-/
namespace PatchTrial

/-- Put an entry into an ascending list, in place of one with the same key. -/
def putSorted {α : Type} (k : String) (v : α) : List (String × α) → List (String × α)
  | [] => [(k, v)]
  | (k', v') :: rest =>
    if k < k' then (k, v) :: (k', v') :: rest
    else if k = k' then (k, v) :: rest
    else (k', v') :: putSorted k v rest

/-- Keys ascend strictly. -/
def Ascending {α : Type} (entries : List (String × α)) : Prop :=
  entries.Pairwise fun a b => a.1 < b.1

theorem mem_putSorted {α : Type} {k : String} {v : α} {entries : List (String × α)}
    {e : String × α} (h : e ∈ putSorted k v entries) : e = (k, v) ∨ e ∈ entries := by
  induction entries with
  | nil => simpa [putSorted] using h
  | cons a rest ih =>
    obtain ⟨k', v'⟩ := a
    rw [putSorted] at h
    split at h
    · simpa using h
    · split at h
      · rcases List.mem_cons.1 h with h | h
        · exact .inl h
        · exact .inr (List.mem_cons_of_mem _ h)
      · rcases List.mem_cons.1 h with h | h
        · exact .inr (h ▸ List.mem_cons_self)
        · rcases ih h with h | h
          · exact .inl h
          · exact .inr (List.mem_cons_of_mem _ h)

theorem ascending_putSorted {α : Type} {k : String} {v : α} {entries : List (String × α)}
    (h : Ascending entries) : Ascending (putSorted k v entries) := by
  induction entries with
  | nil => simp [putSorted, Ascending]
  | cons a rest ih =>
    obtain ⟨k', v'⟩ := a
    obtain ⟨hhead, hrest⟩ := List.pairwise_cons.1 h
    rw [putSorted]
    split
    · next hlt =>
      refine List.pairwise_cons.2 ⟨fun e he => ?_, h⟩
      rcases List.mem_cons.1 he with rfl | he
      · exact hlt
      · exact String.lt_trans hlt (hhead e he)
    · next hlt =>
      split
      · next heq => exact List.pairwise_cons.2 ⟨fun e he => heq ▸ hhead e he, hrest⟩
      · next hne =>
        refine List.pairwise_cons.2 ⟨fun e he => ?_, ih hrest⟩
        rcases mem_putSorted he with rfl | he
        · exact Decidable.byContradiction fun hge =>
            hne (String.le_antisymm (String.not_lt.1 hge) (String.not_lt.1 hlt))
        · exact hhead e he

/-- A map with text keys in ascending order. -/
structure SortedMap (α : Type) where
  entries : List (String × α)
  ascending : Ascending entries

namespace SortedMap

variable {α : Type}

def empty : SortedMap α := ⟨[], List.Pairwise.nil⟩

instance : Inhabited (SortedMap α) := ⟨empty⟩

instance : EmptyCollection (SortedMap α) := ⟨empty⟩

theorem ext {m n : SortedMap α} (h : m.entries = n.entries) : m = n := by
  cases m; cases n; cases h; rfl

instance [DecidableEq α] : DecidableEq (SortedMap α) := fun m n =>
  if h : m.entries = n.entries then isTrue (ext h) else isFalse fun e => h (e ▸ rfl)

/-- Set the value of a key. -/
def insert (m : SortedMap α) (k : String) (v : α) : SortedMap α :=
  ⟨putSorted k v m.entries, ascending_putSorted m.ascending⟩

/-- The value of a key. -/
def get? (m : SortedMap α) (k : String) : Option α := m.entries.lookup k

/-- The map of a list of entries, the last entry of each key counting. -/
def ofList (entries : List (String × α)) : SortedMap α :=
  entries.foldl (fun m e => m.insert e.1 e.2) empty

/-- A key after all others goes to the end. -/
theorem putSorted_of_forall_lt {k : String} {v : α} {entries : List (String × α)}
    (h : ∀ e ∈ entries, e.1 < k) : putSorted k v entries = entries ++ [(k, v)] := by
  induction entries with
  | nil => rfl
  | cons e rest ih =>
    rw [List.forall_mem_cons] at h
    have hafter : ¬k < e.1 := String.lt_asymm h.1
    have hother : k ≠ e.1 := fun heq => String.lt_irrefl k (heq ▸ h.1)
    rw [putSorted, if_neg hafter, if_neg hother, ih h.2, List.cons_append]

theorem entries_foldl_insert {n : SortedMap α} {todo : List (String × α)}
    (h : Ascending (n.entries ++ todo)) :
    (todo.foldl (fun n e => n.insert e.1 e.2) n).entries = n.entries ++ todo := by
  induction todo generalizing n with
  | nil => exact (List.append_nil _).symm
  | cons e rest ih =>
    have hlast : ∀ d ∈ n.entries, d.1 < e.1 := fun d hd =>
      (List.pairwise_append.mp h).2.2 d hd e List.mem_cons_self
    have hinsert : (n.insert e.1 e.2).entries = n.entries ++ [e] := putSorted_of_forall_lt hlast
    have hsplit : (n.insert e.1 e.2).entries ++ rest = n.entries ++ e :: rest := by
      rw [hinsert, List.append_assoc, List.singleton_append]
    rw [List.foldl_cons, ih (hsplit ▸ h), hsplit]

/-- A map is that of its entries. -/
theorem ofList_entries (m : SortedMap α) : ofList m.entries = m :=
  ext (entries_foldl_insert m.ascending)

end SortedMap

end PatchTrial
