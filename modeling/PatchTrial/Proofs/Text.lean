import Mathlib.Data.List.Basic
import Mathlib.Data.List.Induction
import PatchTrial.Text.Basic
import PatchTrial.Text.WordChar

/-!
# Lines, parts, blanks and octets

A text of lines that are each ended by a line feed has these lines, but for carriage returns at
their ends. A text that is split at a separator is put together again around it. Trimming takes
nothing from a text that neither starts nor ends with a blank. The octets of a text are read as it.
-/
namespace PatchTrial.Text

/-! ### Lines -/

/-- A separator ends a piece that has none. -/
theorem pieces_append {p : Char → Bool} {piece : List Char} (h : ∀ c ∈ piece, p c = false)
    {sep : Char} (hsep : p sep = true) (rest : List Char) :
    pieces p (piece ++ sep :: rest) = piece :: pieces p rest := by
  induction piece with
  | nil => simp only [List.nil_append, pieces, hsep, if_true]
  | cons c piece ih =>
    rw [List.forall_mem_cons] at h
    simp only [List.cons_append, pieces, h.1, ih h.2, Bool.false_eq_true, if_false]

theorem pieces_ne_nil (p : Char → Bool) (cs : List Char) : pieces p cs ≠ [] := by
  cases cs with
  | nil => exact List.cons_ne_nil _ _
  | cons c cs =>
    rw [pieces]
    split
    · exact List.cons_ne_nil _ _
    · split <;> exact List.cons_ne_nil _ _

/-- A separator parts the pieces before it from those behind it. -/
theorem pieces_append_sep {p : Char → Bool} {sep : Char} (hsep : p sep = true)
    (before rest : List Char) :
    pieces p (before ++ sep :: rest) = pieces p before ++ pieces p rest := by
  induction before with
  | nil =>
    simp only [List.nil_append, pieces, hsep, if_true]
    rfl
  | cons c before ih =>
    obtain ⟨w, ws, hws⟩ := List.exists_cons_of_ne_nil (pieces_ne_nil p before)
    rw [List.cons_append, pieces, pieces, ih, hws]
    split <;> rfl

theorem getLast?_pieces {p : Char → Bool} {sep : Char} (hsep : p sep = true)
    (before rest : List Char) :
    (pieces p (before ++ sep :: rest)).getLast? = (pieces p rest).getLast? := by
  obtain ⟨w, hw⟩ := List.getLast?_isSome.mpr (pieces_ne_nil p rest) |> Option.isSome_iff_exists.mp
  rw [pieces_append_sep hsep, List.getLast?_append, hw, Option.some_or]

/-- A text without separators is one piece. -/
theorem pieces_eq_singleton {p : Char → Bool} {cs : List Char} (h : ∀ c ∈ cs, p c = false) :
    pieces p cs = [cs] := by
  induction cs with
  | nil => rfl
  | cons c cs ih =>
    rw [List.forall_mem_cons] at h
    rw [pieces, ih h.2, if_neg (by rw [h.1]; exact Bool.false_ne_true)]

/-- The text of lines that are each ended by a line feed. -/
def unlines (ls : List (List Char)) : List Char := ls.flatMap (· ++ ['\n'])

theorem pieces_unlines {ls : List (List Char)} (h : ∀ l ∈ ls, '\n' ∉ l) :
    pieces (· == '\n') (unlines ls) = ls ++ [[]] := by
  induction ls with
  | nil => rfl
  | cons l ls ih =>
    rw [List.forall_mem_cons] at h
    have hl : ∀ c ∈ l, (c == '\n') = false := by
      intro c hc
      refine beq_false_of_ne ?_
      rintro rfl
      exact h.1 hc
    rw [unlines, List.flatMap_cons, List.append_assoc, List.singleton_append,
      pieces_append hl (beq_self_eq_true '\n'), ← unlines, ih h.2, List.cons_append]

theorem lines_unlines {ls : List (List Char)} (h : ∀ l ∈ ls, '\n' ∉ l) :
    lines (unlines ls) = ls.map dropReturn := by
  rw [lines, pieces_unlines h]
  clear h
  induction ls with
  | nil => rfl
  | cons l ls ih =>
    rw [List.map_cons, ← ih]
    cases ls <;> rfl

/-- A carriage return is dropped from the end, or there is none. -/
theorem dropReturn_cases (l : List Char) :
    (l.getLast? ≠ some '\r' ∧ dropReturn l = l) ∨ l = dropReturn l ++ ['\r'] := by
  unfold dropReturn
  split
  next h => exact Or.inr (List.dropLast_append_getLast? '\r' h).symm
  next h => exact Or.inl ⟨h, rfl⟩

/-- What stands in front of a carriage return stays. -/
theorem dropReturn_append {start : List Char} (h : start.getLast? ≠ some '\r')
    (rest : List Char) : dropReturn (start ++ rest) = start ++ dropReturn rest := by
  cases rest with
  | nil => simp [dropReturn, h]
  | cons c rest =>
    have hlast : (start ++ c :: rest).getLast? = (c :: rest).getLast? := by
      rw [List.getLast?_append, List.getLast?_cons, Option.some_or]
    simp only [dropReturn, hlast]
    split
    · exact List.dropLast_append_of_ne_nil (List.cons_ne_nil c rest)
    · rfl

/-- Dropping a carriage return leaves the start of a line that has none. -/
theorem isPrefixOf_dropReturn {start : List Char} (h : '\r' ∉ start) (l : List Char) :
    start.isPrefixOf (dropReturn l) = start.isPrefixOf l := by
  rcases dropReturn_cases l with ⟨-, heq⟩ | heq
  · rw [heq]
  · rw [Bool.eq_iff_iff, List.isPrefixOf_iff_prefix, List.isPrefixOf_iff_prefix]
    conv_rhs => rw [heq, List.prefix_concat_iff]
    refine ⟨Or.inr, ?_⟩
    rintro (rfl | hp)
    · exact absurd (List.mem_append_right _ List.mem_cons_self) h
    · exact hp

/-! ### Parts -/

theorem splitAt?_eq_some {sep : Char} {cs before rest : List Char}
    (h : splitAt? sep cs = some (before, rest)) : cs = before ++ sep :: rest := by
  induction cs generalizing before with
  | nil => cases h
  | cons c cs ih =>
    rw [splitAt?] at h
    split at h
    next hc =>
      cases h
      rw [hc, List.nil_append]
    next =>
      obtain ⟨⟨b, r⟩, hsplit, heq⟩ := Option.map_eq_some_iff.mp h
      cases heq
      rw [ih hsplit, List.cons_append]

theorem splitAt?_length {sep : Char} {cs before rest : List Char}
    (h : splitAt? sep cs = some (before, rest)) : rest.length < cs.length := by
  rw [splitAt?_eq_some h, List.length_append, List.length_cons]
  omega

/-! ### Blanks -/

/-- The digits of all scripts lie between the blanks. -/
theorem not_isBlank_of_isDigit {c : Char} (h : isDigit c = true) : isBlank c = false := by
  have hgaps : ∀ r ∈ digitRanges, 0x30 ≤ r.1 ∧ r.2 ≤ 0x39 ∨ 0x660 ≤ r.1 ∧ r.2 ≤ 0x1099 ∨
      0x17E0 ≤ r.1 ∧ r.2 ≤ 0x1C59 ∨ 0x3001 ≤ r.1 := by
    decide
  obtain ⟨r, hr, hlo, hhi⟩ : ∃ r ∈ digitRanges, r.1 ≤ c.toNat ∧ c.toNat ≤ r.2 := by
    rw [isDigit, Bool.or_eq_true] at h
    rcases h with hascii | hrange
    · exact ⟨(0x30, 0x39), List.mem_cons_self, Char.isDigit_iff_toNat.mp hascii⟩
    · obtain ⟨r, hr, hle⟩ := List.any_eq_true.mp hrange
      exact ⟨r, hr, by simpa using hle⟩
  have hgap := hgaps r hr
  simp only [isBlank, Bool.or_eq_false_iff, Bool.and_eq_false_iff, decide_eq_false_iff_not,
    beq_eq_false_iff_ne]
  omega

theorem trimStart_eq_self {cs : List Char} (h : ∀ c, cs.head? = some c → isBlank c = false) :
    trimStart cs = cs := by
  cases cs with
  | nil => rfl
  | cons c cs => rw [trimStart, List.dropWhile_cons_of_neg (by simp [h c rfl])]

theorem trimEnd_eq_self {cs : List Char} (h : ∀ c, cs.getLast? = some c → isBlank c = false) :
    trimEnd cs = cs := by
  have hr : trimStart cs.reverse = cs.reverse := by
    refine trimStart_eq_self ?_
    rwa [List.head?_reverse]
  rw [trimEnd, ← trimStart, hr, List.reverse_reverse]

theorem trim_eq_self {cs : List Char} (hhead : ∀ c, cs.head? = some c → isBlank c = false)
    (hlast : ∀ c, cs.getLast? = some c → isBlank c = false) : trim cs = cs := by
  rw [trim, trimStart_eq_self hhead, trimEnd_eq_self hlast]

/-- Trimming takes a blank off the end. -/
theorem trim_concat {c : Char} (h : isBlank c = true) (cs : List Char) :
    trim (cs ++ [c]) = trim cs := by
  have hend : ∀ xs, trimEnd (xs ++ [c]) = trimEnd xs := by
    intro xs
    rw [trimEnd, List.reverse_append, List.reverse_singleton, List.singleton_append,
      List.dropWhile_cons_of_pos h, trimEnd]
  rw [trim, trim, trimStart, trimStart, List.dropWhile_append]
  split
  next hempty =>
    rw [List.dropWhile_cons_of_pos h, List.isEmpty_iff.mp hempty]
    rfl
  next => exact hend _

/-- No blanks around a text. -/
structure Unpadded (cs : List Char) : Prop where
  head : ∀ c, cs.head? = some c → isBlank c = false
  last : ∀ c, cs.getLast? = some c → isBlank c = false

namespace Unpadded

variable {cs : List Char}

theorem trim_eq (h : Unpadded cs) : trim cs = cs := trim_eq_self h.head h.last

theorem cons {c : Char} (hc : isBlank c = false) (h : Unpadded cs) : Unpadded (c :: cs) := by
  constructor
  · rintro d ⟨⟩
    exact hc
  · intro d hd
    cases cs with
    | nil =>
      cases hd
      exact hc
    | cons e cs => exact h.last d (List.getLast?_cons_cons ▸ hd)

end Unpadded

theorem trim_blanks_append {before : List Char} (h : ∀ b ∈ before, isBlank b = true)
    (cs : List Char) : trim (before ++ cs) = trim cs := by
  rw [trim, trimStart, List.dropWhile_append_of_pos h, ← trimStart, ← trim]

theorem trim_append_blanks {after : List Char} (h : ∀ b ∈ after, isBlank b = true)
    (cs : List Char) : trim (cs ++ after) = trim cs := by
  induction after using List.reverseRecOn with
  | nil => rw [List.append_nil]
  | append_singleton after b ih =>
    rw [← List.append_assoc, trim_concat (h b (by simp)), ih]
    intro b hb
    exact h b (List.mem_append_left _ hb)

/-- What stands in front of an unpadded text loses the blanks before it only. -/
theorem exists_trim_append {c : Char} {cs : List Char} (h : Unpadded (c :: cs))
    (front : List Char) : ∃ front', trim (front ++ c :: cs) = front' ++ c :: cs := by
  have hstart : trimStart (front ++ c :: cs) = trimStart front ++ c :: cs := by
    rw [trimStart, List.dropWhile_append]
    split
    next hempty =>
      rw [← trimStart, trimStart_eq_self h.head, trimStart, List.isEmpty_iff.mp hempty,
        List.nil_append]
    next => rfl
  refine ⟨trimStart front, ?_⟩
  rw [trim, hstart, trimEnd_eq_self]
  intro d hd
  rw [List.getLast?_append, List.getLast?_cons, Option.some_or, ← List.getLast?_cons] at hd
  exact h.last d hd

/-! ### Octets -/

theorem fromUTF8?_toUTF8 (s : String) : String.fromUTF8? s.toUTF8 = some s := dif_pos s.isValidUTF8

end PatchTrial.Text
