import Mathlib.Data.List.TakeWhile
import PatchTrial.Remedy.Parallel

/-!
# Serialized commands

Setting options for jobs to one job makes a command lighter or leaves it: a character weighs two,
but a `1` and a space weigh one. So a command cannot be serialized back into what it was.
-/
namespace PatchTrial.Parallel

open Text

/-! ### Options -/

structure IsNumber (ds : List Char) : Prop where
  ne_nil : ds ≠ []
  digits : ∀ c ∈ ds, isDigit c = true

/-- A `-j` option with its number. -/
def IsJobs (old : List Char) : Prop :=
  ∃ gap ds, old = ['-', 'j'] ++ (gap ++ ds) ∧ (∀ b ∈ gap, isBlank b = true) ∧ IsNumber ds

/-- What keeps `--parallel` and its number apart. -/
def IsGap (gap : List Char) : Prop := gap = ['='] ∨ gap ≠ [] ∧ ∀ b ∈ gap, isBlank b = true

/-- A `--parallel` option with its number. -/
def IsLevel (old : List Char) : Prop :=
  ∃ gap ds, old = "--parallel".toList ++ (gap ++ ds) ∧ IsGap gap ∧ IsNumber ds

/-- A text that does not go on with a digit. -/
def EndsNumber (rest : List Char) : Prop := ∀ d rest', rest = d :: rest' → isDigit d = false

theorem IsGap.ne_nil {gap : List Char} (h : IsGap gap) : gap ≠ [] := by
  rcases h with rfl | ⟨hne, -⟩
  · exact List.cons_ne_nil _ _
  · exact hne

section Lengths

variable {before n : Nat} {cs : List Char}

theorem eq_append_of_afterStart? {start rest : List Char} (h : afterStart? start cs = some rest) :
    cs = start ++ rest := by
  unfold afterStart? at h
  split at h
  next hp =>
    cases h
    exact (List.prefix_iff_eq_append.mp (List.isPrefixOf_iff_prefix.mp hp)).symm
  next => cases h

/-- A number is taken with all its digits. -/
theorem of_digitsLength? (h : digitsLength? before cs = some n) :
    ∃ ds rest, cs = ds ++ rest ∧ n = before + ds.length ∧ IsNumber ds ∧ EndsNumber rest := by
  unfold digitsLength? at h
  dsimp only at h
  split at h
  · cases h
  next hne =>
    cases h
    refine ⟨_, _, List.takeWhile_append_dropWhile.symm, rfl,
      ⟨by simpa using hne, fun c hc => List.mem_takeWhile_imp hc⟩, fun d rest' hrest => ?_⟩
    have hhead := List.head?_dropWhile_not isDigit cs
    rwa [hrest] at hhead

/-- Digits after blanks. -/
theorem of_digitsLength?_dropWhile
    (h : digitsLength? (before + (cs.takeWhile isBlank).length) (cs.dropWhile isBlank) = some n) :
    ∃ ds rest, cs = cs.takeWhile isBlank ++ ds ++ rest ∧
      n = before + (cs.takeWhile isBlank).length + ds.length ∧ IsNumber ds ∧ EndsNumber rest := by
  obtain ⟨ds, rest, hcs, hn, hds, hrest⟩ := of_digitsLength? h
  refine ⟨ds, rest, ?_, hn, hds, hrest⟩
  rw [List.append_assoc, ← hcs, List.takeWhile_append_dropWhile]

theorem of_jobsLength? (h : jobsLength? cs = some n) :
    ∃ old rest, cs = old ++ rest ∧ n = old.length ∧ IsJobs old ∧ EndsNumber rest := by
  obtain ⟨after, hafter, h⟩ := Option.bind_eq_some_iff.mp h
  obtain ⟨ds, rest, hcs, hn, hds, hrest⟩ := of_digitsLength?_dropWhile h
  refine ⟨['-', 'j'] ++ (after.takeWhile isBlank ++ ds), rest, ?_, ?_,
    ⟨_, ds, rfl, fun b hb => List.mem_takeWhile_imp hb, hds⟩, hrest⟩
  · rw [eq_append_of_afterStart? hafter, List.append_assoc, ← hcs]
  · simp only [hn, List.length_append, List.length_cons, List.length_nil]
    omega

theorem of_levelLength? (h : levelLength? cs = some n) :
    ∃ old rest, cs = old ++ rest ∧ n = old.length ∧ IsLevel old ∧ EndsNumber rest := by
  obtain ⟨after, hafter, h⟩ := Option.bind_eq_some_iff.mp h
  -- The option and its number are apart by `=` or by blanks.
  obtain ⟨gap, ds, rest, hcs, hn, hgap, hds, hrest⟩ : ∃ gap ds rest,
      after = gap ++ ds ++ rest ∧ n = 10 + gap.length + ds.length ∧ IsGap gap ∧ IsNumber ds ∧
        EndsNumber rest := by
    split at h
    next =>
      obtain ⟨ds, rest, hcs, hn, hds, hrest⟩ := of_digitsLength? h
      exact ⟨['='], ds, rest, congrArg ('=' :: ·) hcs, hn, Or.inl rfl, hds, hrest⟩
    next =>
      dsimp only at h
      split at h
      · cases h
      next hne =>
      obtain ⟨ds, rest, hcs, hn, hds, hrest⟩ := of_digitsLength?_dropWhile h
      exact ⟨_, ds, rest, hcs, hn,
        Or.inr ⟨by simpa using hne, fun b hb => List.mem_takeWhile_imp hb⟩, hds, hrest⟩
  refine ⟨"--parallel".toList ++ (gap ++ ds), rest, ?_, ?_, ⟨gap, ds, rfl, hgap, hds⟩, hrest⟩
  · rw [eq_append_of_afterStart? hafter, hcs, List.append_assoc "--parallel".toList]
  · simp only [hn, List.length_append]
    exact Nat.add_assoc ..

end Lengths

/-! ### Weight -/

def weight (c : Char) : Nat := if c = '1' ∨ c = ' ' then 1 else 2

def weightOf : List Char → Nat
  | [] => 0
  | c :: cs => weight c + weightOf cs

theorem one_le_weight (c : Char) : 1 ≤ weight c := by
  unfold weight
  split <;> omega

theorem weightOf_append (xs ys : List Char) :
    weightOf (xs ++ ys) = weightOf xs + weightOf ys := by
  induction xs with
  | nil => exact (Nat.zero_add _).symm
  | cons x xs ih => rw [List.cons_append, weightOf, weightOf, ih, Nat.add_assoc]

theorem length_le_weightOf (cs : List Char) : cs.length ≤ weightOf cs := by
  induction cs with
  | nil => exact Nat.le_refl 0
  | cons c cs ih =>
    have hc := one_le_weight c
    rw [weightOf, List.length_cons]
    omega

/-- `new` is no heavier than `old`, and as heavy only if it is the same. -/
structure Lightens (new old : List Char) : Prop where
  le : weightOf new ≤ weightOf old
  eq : weightOf new = weightOf old → new = old

namespace Lightens

variable {xs ys zs xs' ys' : List Char}

theorem refl (xs : List Char) : Lightens xs xs := ⟨Nat.le_refl _, fun _ => rfl⟩

theorem trans (h : Lightens xs ys) (h' : Lightens ys zs) : Lightens xs zs where
  le := Nat.le_trans h.le h'.le
  eq heq := by
    have hle := h.le
    have hle' := h'.le
    rw [h.eq (by omega), h'.eq (by omega)]

theorem append (h : Lightens xs ys) (h' : Lightens xs' ys') :
    Lightens (xs ++ xs') (ys ++ ys') where
  le := by
    rw [weightOf_append, weightOf_append]
    exact Nat.add_le_add h.le h'.le
  eq heq := by
    have hle := h.le
    have hle' := h'.le
    rw [weightOf_append, weightOf_append] at heq
    rw [h.eq (by omega), h'.eq (by omega)]

end Lightens

theorem lightens_nil (old : List Char) : Lightens [] old where
  le := Nat.zero_le _
  eq heq := by
    have hlen := length_le_weightOf old
    have hzero : weightOf old = 0 := heq.symm
    exact (List.eq_nil_of_length_eq_zero (by omega)).symm

/-- One of the light characters for a text without the other one. -/
theorem lightens_light {c : Char} (hc : weight c = 1) {old : List Char} (hne : old ≠ [])
    (hlight : ∀ o ∈ old, weight o = 1 → o = c) : Lightens [c] old := by
  obtain ⟨o, old, rfl⟩ := List.exists_cons_of_ne_nil hne
  have ho := one_le_weight o
  have hone : weightOf [c] = 1 := by rw [weightOf, weightOf, hc]
  refine ⟨by rw [hone, weightOf]; omega, fun heq => ?_⟩
  rw [hone, weightOf] at heq
  have hlen := length_le_weightOf old
  obtain rfl : old = [] := List.eq_nil_of_length_eq_zero (by omega)
  rw [hlight o List.mem_cons_self (by omega)]

theorem eq_of_weight {c : Char} (h : weight c = 1) : c = '1' ∨ c = ' ' := by
  unfold weight at h
  split at h
  next hc => exact hc
  next => cases h

theorem IsNumber.lightens {ds : List Char} (h : IsNumber ds) : Lightens ['1'] ds := by
  refine lightens_light (by decide) h.ne_nil fun c hc hweight => ?_
  rcases eq_of_weight hweight with rfl | rfl
  · rfl
  · exact absurd (h.digits ' ' hc) (by decide +kernel)

theorem IsGap.lightens {gap : List Char} (h : IsGap gap) : Lightens [' '] gap := by
  have hone : '1' ∉ gap := by
    rintro hmem
    rcases h with rfl | ⟨-, hblank⟩
    · exact absurd hmem (by decide)
    · exact absurd (hblank _ hmem) (by decide)
  refine lightens_light (by decide) h.ne_nil fun c hc hweight => ?_
  rcases eq_of_weight hweight with rfl | rfl
  · exact absurd hc hone
  · rfl

/-! ### Matches -/

/-- What is found stands at the start of the text, and `new` lightens it. -/
def Finds (find : List Char → Option Nat) (new : List Char) : Prop :=
  ∀ cs n, find cs = some n → ∃ old rest, cs = old ++ rest ∧ n = old.length ∧ old ≠ [] ∧
    Lightens new old

theorem finds_jobs : Finds jobsLength? "-j1".toList := by
  intro cs n h
  obtain ⟨old, rest, hcs, hn, hjobs, -⟩ := of_jobsLength? h
  refine ⟨old, rest, hcs, hn, ?_⟩
  obtain ⟨gap, ds, rfl, -, hds⟩ := hjobs
  refine ⟨List.cons_ne_nil _ _, ?_⟩
  exact (Lightens.refl ['-', 'j']).append ((lightens_nil gap).append hds.lightens)

theorem finds_level : Finds levelLength? "--parallel 1".toList := by
  intro cs n h
  obtain ⟨old, rest, hcs, hn, hlevel, -⟩ := of_levelLength? h
  refine ⟨old, rest, hcs, hn, ?_⟩
  obtain ⟨gap, ds, rfl, hgap, hds⟩ := hlevel
  refine ⟨List.append_ne_nil_of_left_ne_nil (by decide) _, ?_⟩
  exact (Lightens.refl "--parallel".toList).append (hgap.lightens.append hds.lightens)

/-! ### Replacement -/

theorem replaceMatches_lightens {find : Bool → List Char → Option Nat} {new : List Char}
    (hf : ∀ start, Finds (find start) new) (skip : Nat) (start : Bool) (cs : List Char) :
    Lightens (replaceMatches find new skip start cs) (cs.drop skip) := by
  induction cs generalizing skip start with
  | nil =>
    rw [List.drop_nil]
    cases skip <;> exact .refl []
  | cons c cs ih =>
    cases skip with
    | succ skip => exact ih skip _
    | zero =>
      rw [replaceMatches, List.drop_zero]
      split
      next n hfind =>
        obtain ⟨old, rest, hcs, rfl, hne, hlight⟩ := hf start _ _ hfind
        obtain ⟨o, old, rfl⟩ := List.exists_cons_of_ne_nil hne
        rw [List.cons_append, List.cons.injEq] at hcs
        obtain ⟨rfl, hcs⟩ := hcs
        have hrest := ih old.length (isBlank c)
        rw [hcs, List.drop_left] at hrest
        rw [hcs, ← List.cons_append]
        exact hlight.append hrest
      next => exact (Lightens.refl [c]).append (ih 0 (isBlank c))

theorem oneJob_lightens (cs : List Char) : Lightens (oneJob cs) cs := by
  refine replaceMatches_lightens (fun start cs n h => ?_) 0 true cs
  unfold jobsAt at h
  split at h
  · exact finds_jobs cs n h
  · cases h

theorem oneLevel_lightens (cs : List Char) : Lightens (oneLevel cs) cs :=
  replaceMatches_lightens (fun _ => finds_level) 0 true cs

/-- A command that is serialized becomes lighter or stays as it is. -/
theorem serialized_lightens (cmd : String) : Lightens (serialized cmd).toList cmd.toList := by
  rw [serialized, String.toList_ofList]
  exact (oneLevel_lightens _).trans (oneJob_lightens _)

end PatchTrial.Parallel
