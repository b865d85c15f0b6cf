import PatchTrial.Proofs.Revision

/-!
# The variables of a plan

`Plan.envValue?` is the value of a variable for a step. A remedy adds variables and sets some to
the values that it assigns; where these agree with the values that are there, every value stays
and the environments are the same or have a variable more.
-/
namespace PatchTrial

/-! ### Sorted maps -/

namespace SortedMap

variable {α : Type} {k k' : String} {v : α}

theorem lookup_putSorted_self (k : String) (v : α) (entries : List (String × α)) :
    (putSorted k v entries).lookup k = some v := by
  induction entries with
  | nil => simp [putSorted]
  | cons e rest ih =>
    obtain ⟨key, value⟩ := e
    rw [putSorted]
    split
    · simp
    split
    · simp
    next hne => rw [List.lookup_cons, beq_false_of_ne hne, ih]

theorem lookup_putSorted_of_ne (h : k' ≠ k) (v : α) (entries : List (String × α)) :
    (putSorted k v entries).lookup k' = entries.lookup k' := by
  induction entries with
  | nil => simp [putSorted, List.lookup_cons, beq_false_of_ne h]
  | cons e rest ih =>
    obtain ⟨key, value⟩ := e
    rw [putSorted]
    split
    · simp [List.lookup_cons, beq_false_of_ne h]
    split
    next heq =>
      subst heq
      simp [List.lookup_cons, beq_false_of_ne h]
    next => simp [List.lookup_cons, ih]

@[simp] theorem get?_insert_self (m : SortedMap α) (k : String) (v : α) :
    (m.insert k v).get? k = some v := lookup_putSorted_self k v m.entries

theorem get?_insert_of_ne (m : SortedMap α) (h : k' ≠ k) (v : α) :
    (m.insert k v).get? k' = m.get? k' := lookup_putSorted_of_ne h v m.entries

@[simp] theorem get?_empty (k : String) : (empty : SortedMap α).get? k = none := rfl

theorem putSorted_of_lookup {entries : List (String × α)} (hsorted : Ascending entries)
    (h : entries.lookup k = some v) : putSorted k v entries = entries := by
  induction entries with
  | nil => cases h
  | cons e rest ih =>
    obtain ⟨hhead, hrest⟩ := List.pairwise_cons.mp hsorted
    rw [List.lookup_cons] at h
    rw [putSorted]
    by_cases heq : k = e.1
    · subst heq
      simp only [beq_self_eq_true, Option.some.injEq] at h
      rw [if_neg (String.lt_irrefl e.1), if_pos rfl, ← h]
    · rw [beq_false_of_ne heq] at h
      have hlt : ¬k < e.1 := by
        intro hlt
        obtain ⟨l₁, l₂, rfl, -⟩ := List.lookup_eq_some_iff.mp h
        have := hhead (k, v) (by simp)
        exact String.lt_irrefl k (String.lt_trans hlt this)
      rw [if_neg hlt, if_neg heq, ih hrest h]

/-- Putting in an entry that is there changes nothing. -/
theorem insert_of_get? {m : SortedMap α} (h : m.get? k = some v) : m.insert k v = m :=
  ext (putSorted_of_lookup m.ascending h)

end SortedMap

namespace Plan

/-- The value of a variable for a step. -/
def envValue? (p : Plan) (s : Step) (key : String) : Option String :=
  (p.env.get s).bind (·.get? key)

section SetEnv

variable (p : Plan) (s : Step) (key value : String)

@[simp] theorem envValue?_setCommand (u : Step) (c : Option String) :
    (p.setCommand u c).envValue? s key = p.envValue? s key := rfl

@[simp] theorem envValue?_setEnv_self : (p.setEnv s key value).envValue? s key = some value := by
  simp [envValue?, setEnv]

theorem envValue?_setEnv_of_ne {u : Step} {key' : String} (h : ¬(u = s ∧ key' = key)) :
    (p.setEnv s key value).envValue? u key' = p.envValue? u key' := by
  unfold envValue? setEnv
  by_cases hs : u = s
  · subst hs
    have hkey : key' ≠ key := fun heq => h ⟨rfl, heq⟩
    simp only [PerStep.get_set_self, Option.bind_some, SortedMap.get?_insert_of_ne _ hkey]
    cases p.env.get u <;> rfl
  · dsimp only
    rw [PerStep.get_set_of_ne _ _ hs]

variable {p s key value}

theorem envValue?_of_setEnv {u : Step} {key' value' : String}
    (h : (p.setEnv s key value).envValue? u key' = some value') :
    (key', value') = (key, value) ∨ p.envValue? u key' = some value' := by
  by_cases hsame : u = s ∧ key' = key
  · obtain ⟨rfl, rfl⟩ := hsame
    rw [envValue?_setEnv_self] at h
    cases h
    exact Or.inl rfl
  · rw [envValue?_setEnv_of_ne _ _ _ _ hsame] at h
    exact Or.inr h

/-- Setting a variable to the value that it has leaves the environments. -/
theorem env_setEnv_of_envValue? (h : p.envValue? s key = some value) :
    (p.setEnv s key value).env = p.env := by
  obtain ⟨env, henv, hget⟩ := Option.bind_eq_some_iff.mp h
  refine PerStep.ext_get fun u => ?_
  by_cases hu : u = s
  · subst hu
    simp only [setEnv, PerStep.get_set_self, henv, Option.getD_some, SortedMap.insert_of_get? hget]
  · exact PerStep.get_set_of_ne _ _ hu

end SetEnv

section Edits

variable {steps : List Step} {assigned : List (String × String)} {p q : Plan} {s : Step}
  {key value : String}

theorem Edits.command_eq (h : p.Edits steps assigned q) (hs : s ∉ steps) :
    q.commands.get s = p.commands.get s := by
  induction h with
  | refl => rfl
  | @setCommand q h u hu c ih =>
    rw [← ih]
    refine PerStep.get_set_of_ne _ _ ?_
    rintro rfl
    exact hs hu
  | setEnv h u hv ih => exact ih

theorem Edits.env_eq (h : p.Edits steps assigned q) (hnone : assigned = []) : q.env = p.env := by
  induction h with
  | refl => rfl
  | setCommand h hu c ih => exact ih
  | setEnv h u hv ih => exact absurd hv (hnone ▸ List.not_mem_nil)

/-- A value was there or is one of those assigned. -/
theorem Edits.mem_assigned (h : p.Edits steps assigned q) (hq : q.envValue? s key = some value) :
    p.envValue? s key = some value ∨ (key, value) ∈ assigned := by
  induction h with
  | refl => exact Or.inl hq
  | setCommand h hu c ih => exact ih hq
  | setEnv h u hv ih =>
    rcases envValue?_of_setEnv hq with heq | hq
    · exact Or.inr (heq ▸ hv)
    · exact ih hq

/-- A value stays if no other one is assigned. -/
theorem Edits.keeps (h : p.Edits steps assigned q) (hp : p.envValue? s key = some value)
    (hagree : ∀ value', (key, value') ∈ assigned → value' = value) :
    q.envValue? s key = some value := by
  induction h with
  | refl => exact hp
  | setCommand h hu c ih => exact ih
  | @setEnv q h u key' value' hv ih =>
    by_cases hsame : s = u ∧ key = key'
    · obtain ⟨rfl, rfl⟩ := hsame
      rw [envValue?_setEnv_self, hagree value' hv]
    · rw [envValue?_setEnv_of_ne _ _ _ _ hsame, ih]

/-- Edits that agree with the values that are there leave the environments or add a variable. -/
theorem Edits.env_cases (h : p.Edits steps assigned q)
    (hagree : ∀ s key value value', p.envValue? s key = some value → (key, value') ∈ assigned →
      value' = value)
    (honce : ∀ key value value', (key, value) ∈ assigned → (key, value') ∈ assigned →
      value' = value) :
    q.env = p.env ∨ ∃ s key, p.envValue? s key = none ∧ (q.envValue? s key).isSome = true := by
  induction h with
  | refl => exact Or.inl rfl
  | setCommand h hu c ih => exact ih
  | @setEnv q h u key value hv ih =>
    cases hq : q.envValue? u key with
    | none =>
      refine Or.inr ⟨u, key, ?_, by rw [envValue?_setEnv_self]; rfl⟩
      rw [← Option.not_isSome_iff_eq_none, Option.isSome_iff_exists]
      rintro ⟨value', hp⟩
      rw [h.keeps hp fun value'' hv' => hagree u key value' value'' hp hv'] at hq
      cases hq
    | some value' =>
      obtain rfl : value' = value := by
        rcases h.mem_assigned hq with hp | hv'
        · exact (hagree u key value' value hp hv).symm
        · exact honce key value value' hv hv'
      rw [env_setEnv_of_envValue? hq]
      refine ih.imp_right ?_
      rintro ⟨s, key', hp, hsome⟩
      refine ⟨s, key', hp, ?_⟩
      by_cases hsame : s = u ∧ key' = key
      · obtain ⟨rfl, rfl⟩ := hsame
        rw [envValue?_setEnv_self]
        rfl
      · rwa [envValue?_setEnv_of_ne _ _ _ _ hsame]

end Edits

end Plan

end PatchTrial
