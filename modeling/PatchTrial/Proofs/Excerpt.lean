import Mathlib.Data.List.Infix
import PatchTrial.Failure.Classify

/-!
# The ends of texts that are kept

A failure keeps of each output stream the longest end that takes no more bytes than are allowed. It
starts where a step-by-step walk from the byte that is as far from the end as allowed first meets a
boundary between characters, and as no character takes more than four bytes, at most three of those
allowed are left unused.

Main statements: `Text.longestEnd_tailOf`, `Failure.excerpts_longestEnd`.
-/
namespace PatchTrial

namespace Text

open String (Pos)

variable {c : Char} {cs ws : List Char} {s t : String} {max : Nat}

/-! ### Bytes of a text -/

theorem byteLength_cons (c : Char) (cs : List Char) :
    byteLength (c :: cs) = c.utf8Size + byteLength cs := by
  have hstart : ∀ (cs : List Char) (n : Nat),
      cs.foldl (fun n c => n + c.utf8Size) n = n + byteLength cs := by
    intro cs
    induction cs with
    | nil => exact fun n => rfl
    | cons d cs ih =>
      intro n
      have hd : byteLength (d :: cs) = d.utf8Size + byteLength cs := by
        rw [byteLength, List.foldl_cons, ih, Nat.zero_add]
      rw [List.foldl_cons, ih, hd, Nat.add_assoc]
  rw [byteLength, List.foldl_cons, hstart, Nat.zero_add]

theorem byteLength_eq (cs : List Char) : byteLength cs = (String.ofList cs).utf8ByteSize := by
  induction cs with
  | nil => rfl
  | cons c cs ih =>
    have hsplit : String.ofList (c :: cs) = String.singleton c ++ String.ofList cs := by
      rw [String.singleton_eq_ofList, ← String.ofList_append, List.singleton_append]
    rw [byteLength_cons, hsplit, String.utf8ByteSize_append, String.utf8ByteSize_singleton, ih]

/-! ### Longest ends of lists of characters -/

theorem tail_cons (max : Nat) (c : Char) (cs : List Char) :
    tail max (c :: cs) = if byteLength (c :: cs) ≤ max then c :: cs else tail max cs := by
  rw [tail, dropTo, byteLength_cons, Nat.add_sub_cancel_left, tail]

theorem tail_of_le (h : byteLength cs ≤ max) : tail max cs = cs := by
  cases cs with
  | nil => rfl
  | cons c cs => rw [tail_cons, if_pos h]

theorem tail_suffix (max : Nat) (cs : List Char) : tail max cs <:+ cs := by
  induction cs with
  | nil => exact List.suffix_rfl
  | cons c cs ih =>
    rw [tail_cons]
    split
    · exact List.suffix_rfl
    · exact ih.trans (List.suffix_cons c cs)

theorem byteLength_tail_le (max : Nat) (cs : List Char) : byteLength (tail max cs) ≤ max := by
  induction cs with
  | nil => exact Nat.zero_le _
  | cons c cs ih =>
    rw [tail_cons]
    split
    next h => exact h
    next => exact ih

/-- An end that is short enough is an end of the longest one. -/
theorem suffix_tail (hws : ws <:+ cs) (h : byteLength ws ≤ max) : ws <:+ tail max cs := by
  induction cs with
  | nil => exact hws
  | cons c cs ih =>
    rw [tail_cons]
    split
    · exact hws
    next hlong =>
      rcases List.suffix_cons_iff.mp hws with rfl | hws
      · exact absurd h hlong
      · exact ih hws

/-- No more than three of the bytes allowed are left unused: what is dropped last is one character,
of at most four bytes, that would not fit. -/
theorem min_le_byteLength_tail (max : Nat) (cs : List Char) :
    min (byteLength cs) max ≤ byteLength (tail max cs) + 3 := by
  induction cs with
  | nil => exact (Nat.min_le_left _ _).trans (Nat.le_add_right _ _)
  | cons c cs ih =>
    have hsize : byteLength (c :: cs) = c.utf8Size + byteLength cs := byteLength_cons c cs
    have hfour : c.utf8Size ≤ 4 := c.utf8Size_le_four
    by_cases hall : byteLength (c :: cs) ≤ max
    · rw [tail_of_le hall]
      omega
    · rw [tail_cons, if_neg hall]
      by_cases hrest : byteLength cs ≤ max
      · rw [tail_of_le hrest]
        omega
      · omega

/-! ### Walks to a boundary -/

/-- Going on from a byte of a text, one byte at a time, until a character starts there or the text
ends. -/
inductive Advances (s : String) : Nat → Nat → Prop
  | stop {i : Nat} (h : (⟨i⟩ : Pos.Raw).IsValid s) : Advances s i i
  | step {i j : Nat} (hinside : ¬(⟨i⟩ : Pos.Raw).IsValid s) (h : Advances s (i + 1) j) :
      Advances s i j

theorem advances_of_forall {i j : Nat} (hij : i ≤ j) (hj : (⟨j⟩ : Pos.Raw).IsValid s)
    (hinside : ∀ k, i ≤ k → k < j → ¬(⟨k⟩ : Pos.Raw).IsValid s) : Advances s i j := by
  induction hij using Nat.decreasingInduction with
  | self => exact .stop hj
  | of_succ k hk ih =>
    exact .step (hinside k le_rfl hk) (ih fun l hl => hinside l (Nat.le_of_succ_le hl))

/-! ### Longest ends of texts -/

/-- `t` is the longest end of `s` that takes at most `max` bytes. -/
structure LongestEnd (max : Nat) (s t : String) : Prop where
  fits : t.utf8ByteSize ≤ max
  whole : s.utf8ByteSize ≤ max → t = s
  /-- It starts on a boundary, the first that is met from as many bytes before the end of `s` as are
  allowed. -/
  boundary : ∃ front, s = front ++ t ∧ front.rawEndPos.IsValid s ∧
    (max < s.utf8ByteSize → Advances s (s.utf8ByteSize - max) front.utf8ByteSize)
  longest : ∀ front rest, s = front ++ rest → rest.utf8ByteSize ≤ max → ∃ more, t = more ++ rest
  unused : min s.utf8ByteSize max ≤ t.utf8ByteSize + 3

theorem utf8ByteSize_tailOf (s : String) (max : Nat) :
    (tailOf s max).utf8ByteSize = byteLength (tail max s.toList) := (byteLength_eq _).symm

theorem utf8ByteSize_eq (s : String) : s.utf8ByteSize = byteLength s.toList := by
  rw [byteLength_eq, String.ofList_toList]

theorem exists_front_tailOf (s : String) (max : Nat) : ∃ front, s = front ++ tailOf s max := by
  obtain ⟨front, hfront⟩ := tail_suffix max s.toList
  refine ⟨String.ofList front, ?_⟩
  rw [tailOf, ← String.ofList_append, hfront, String.ofList_toList]

theorem tailOf_longest {front rest : String} (hs : s = front ++ rest)
    (hrest : rest.utf8ByteSize ≤ max) : ∃ more, tailOf s max = more ++ rest := by
  have hsuffix : rest.toList <:+ s.toList := by
    rw [hs, String.toList_append]
    exact List.suffix_append _ _
  obtain ⟨more, hmore⟩ := suffix_tail hsuffix (utf8ByteSize_eq rest ▸ hrest)
  refine ⟨String.ofList more, ?_⟩
  rw [tailOf, ← hmore, String.ofList_append, String.ofList_toList]

/-- A boundary that the walk passed would start an end that fits and is longer than the longest. -/
theorem advances_tailOf {front : String} (hs : s = front ++ tailOf s max)
    (hlong : max < s.utf8ByteSize) : Advances s (s.utf8ByteSize - max) front.utf8ByteSize := by
  have hsize : s.utf8ByteSize = front.utf8ByteSize + (tailOf s max).utf8ByteSize := by
    rw [← String.utf8ByteSize_append, ← hs]
  have hfits : (tailOf s max).utf8ByteSize ≤ max :=
    utf8ByteSize_tailOf s max ▸ byteLength_tail_le max s.toList
  refine advances_of_forall (by omega) ?_ fun k hk hfront hvalid => ?_
  · exact Pos.Raw.isValid_iff_exists_append.mpr ⟨front, tailOf s max, hs, rfl⟩
  · obtain ⟨before, rest, hsplit, hbefore⟩ := Pos.Raw.isValid_iff_exists_append.mp hvalid
    have hk' : k = before.utf8ByteSize := congrArg Pos.Raw.byteIdx hbefore
    have hrest : s.utf8ByteSize = before.utf8ByteSize + rest.utf8ByteSize := by
      rw [← String.utf8ByteSize_append, ← hsplit]
    have hfit : rest.utf8ByteSize ≤ max := by omega
    obtain ⟨more, hmore⟩ := tailOf_longest hsplit hfit
    have hle : (tailOf s max).utf8ByteSize = more.utf8ByteSize + rest.utf8ByteSize := by
      rw [← String.utf8ByteSize_append, ← hmore]
    omega

theorem longestEnd_tailOf (s : String) (max : Nat) : LongestEnd max s (tailOf s max) where
  fits := utf8ByteSize_tailOf s max ▸ byteLength_tail_le max s.toList
  whole h := by rw [tailOf, tail_of_le (utf8ByteSize_eq s ▸ h), String.ofList_toList]
  boundary := by
    obtain ⟨front, hs⟩ := exists_front_tailOf s max
    have hvalid := Pos.Raw.isValid_iff_exists_append.mpr ⟨front, tailOf s max, hs, rfl⟩
    exact ⟨front, hs, hvalid, advances_tailOf hs⟩
  longest _ _ := tailOf_longest
  unused := by
    rw [utf8ByteSize_tailOf, utf8ByteSize_eq]
    exact min_le_byteLength_tail max s.toList

/-- There is one longest end: of two, each is an end of the other. -/
theorem LongestEnd.unique {t' : String} (h : LongestEnd max s t) (h' : LongestEnd max s t') :
    t = t' := by
  obtain ⟨front, hs, -⟩ := h.boundary
  obtain ⟨front', hs', -⟩ := h'.boundary
  obtain ⟨more', hmore'⟩ := h'.longest front t hs h.fits
  obtain ⟨more, hmore⟩ := h.longest front' t' hs' h'.fits
  have hsize : t.utf8ByteSize = more.utf8ByteSize + t'.utf8ByteSize := by
    rw [← String.utf8ByteSize_append, ← hmore]
  have hsize' : t'.utf8ByteSize = more'.utf8ByteSize + t.utf8ByteSize := by
    rw [← String.utf8ByteSize_append, ← hmore']
  have hempty : more = "" := String.utf8ByteSize_eq_zero_iff.mp (by omega)
  rw [hmore, hempty, String.empty_append]

end Text

namespace Failure

open Text

variable {α : Type}

/-- Of every text the longest end that fits is kept, and a failure keeps that of each stream of the
step that failed. -/
theorem excerpts_longestEnd :
    (∀ s max, LongestEnd max s (tailOf s max)) ∧
    ∀ (excerpt : Nat) (run : PipelineRun α),
      (classify excerpt run).stdoutExcerpt.utf8ByteSize ≤ excerpt ∧
      (classify excerpt run).stderrExcerpt.utf8ByteSize ≤ excerpt ∧
      ∀ r, run.firstFailure? = some r →
        LongestEnd excerpt r.stdout (classify excerpt run).stdoutExcerpt ∧
        LongestEnd excerpt r.stderr (classify excerpt run).stderrExcerpt := by
  refine ⟨longestEnd_tailOf, fun excerpt run => ?_⟩
  cases h : run.firstFailure? with
  | none =>
    have hclassify : classify excerpt run = unknown := by rw [classify, h]
    rw [hclassify]
    exact ⟨Nat.zero_le _, Nat.zero_le _, nofun⟩
  | some r =>
    have hout : (classify excerpt run).stdoutExcerpt = tailOf r.stdout excerpt := by
      rw [classify, h]
    have herr : (classify excerpt run).stderrExcerpt = tailOf r.stderr excerpt := by
      rw [classify, h]
    rw [hout, herr]
    refine ⟨(longestEnd_tailOf _ _).fits, (longestEnd_tailOf _ _).fits, ?_⟩
    rintro _ ⟨⟩
    exact ⟨longestEnd_tailOf _ _, longestEnd_tailOf _ _⟩

/-- Of an accented letter that takes two bytes, nothing is kept where one byte is allowed. -/
theorem excerpts_longestEnd_accent :
    let run : PipelineRun Unit :=
      ⟨[⟨"install", "npm ci", 1, 10, "", "xé", false⟩], false, none, none⟩
    (classify 1 run).stderrExcerpt = "" ∧ (classify 2 run).stderrExcerpt = "é" ∧
      LongestEnd 1 "xé" (classify 1 run).stderrExcerpt ∧
      LongestEnd 2 "xé" (classify 2 run).stderrExcerpt := by
  intro run
  obtain ⟨-, hkept⟩ := @excerpts_longestEnd Unit
  obtain ⟨-, -, hone⟩ := hkept 1 run
  obtain ⟨-, -, htwo⟩ := hkept 2 run
  exact ⟨by decide, by decide, (hone _ rfl).2, (htwo _ rfl).2⟩

end Failure

end PatchTrial
