import PatchTrial.Patch.Diff
import PatchTrial.Proofs.Gate
import PatchTrial.Proofs.Text

/-!
# Unified diffs and the lines that they change

A unified diff is a list of file sections, each with two headers and any number of hunks. `render`
writes it down. Nothing is asked of the texts in it but that each stands on one line: a header may
name anything, and the ranges of a hunk need not fit its body.

A diff changes the body lines that are marked as added or removed. The count that the gate goes by
is read off the text, line by line, and takes a changed line for a file header if its text starts
with two more of its marks. So the count falls short by exactly these lines.
-/
namespace PatchTrial.Diff

open Text

/-- A text that stands on one line. -/
structure Line where
  chars : List Char
  one_line : '\n' ∉ chars
  deriving DecidableEq

inductive Mark where
  | context
  | removed
  | added
  deriving DecidableEq

def Mark.char : Mark → Char
  | .context => ' '
  | .removed => '-'
  | .added => '+'

structure BodyLine where
  mark : Mark
  text : Line
  deriving DecidableEq

structure Hunk where
  /-- What stands behind `@@`: the ranges, and often a heading. -/
  range : Line
  body : List BodyLine
  deriving DecidableEq

structure FileSection where
  /-- What stands behind `---`. -/
  oldHeader : Line
  /-- What stands behind `+++`. -/
  newHeader : Line
  hunks : List Hunk
  deriving DecidableEq

abbrev Unified := List FileSection

def oldMarker : List Char := ['-', '-', '-', ' ']

def newMarker : List Char := ['+', '+', '+', ' ']

def rangeMarker : List Char := ['@', '@', ' ']

def BodyLine.chars (l : BodyLine) : List Char := l.mark.char :: l.text.chars

def Hunk.lines (h : Hunk) : List (List Char) :=
  (rangeMarker ++ h.range.chars) :: h.body.map BodyLine.chars

def FileSection.lines (s : FileSection) : List (List Char) :=
  (oldMarker ++ s.oldHeader.chars) :: (newMarker ++ s.newHeader.chars) ::
    s.hunks.flatMap Hunk.lines

def FileSection.body (s : FileSection) : List BodyLine := s.hunks.flatMap Hunk.body

/-- The text of a diff. -/
def render (d : Unified) : String := String.ofList (unlines (d.flatMap FileSection.lines))

/-- The body lines of all hunks. -/
def body (d : Unified) : List BodyLine := d.flatMap FileSection.body

/-! ### The lines of a rendered diff -/

theorem Hunk.newline_not_mem {h : Hunk} {l : List Char} (hl : l ∈ h.lines) : '\n' ∉ l := by
  rcases List.mem_cons.mp hl with rfl | hl
  · simp [rangeMarker, h.range.one_line]
  · obtain ⟨b, -, rfl⟩ := List.mem_map.mp hl
    have hm : b.mark.char ≠ '\n' := by cases b.mark <;> decide
    simp [BodyLine.chars, hm.symm, b.text.one_line]

theorem FileSection.newline_not_mem {s : FileSection} {l : List Char} (hl : l ∈ s.lines) :
    '\n' ∉ l := by
  rcases List.mem_cons.mp hl with rfl | hl
  · simp [oldMarker, s.oldHeader.one_line]
  rcases List.mem_cons.mp hl with rfl | hl
  · simp [newMarker, s.newHeader.one_line]
  · obtain ⟨h, -, hl⟩ := List.mem_flatMap.mp hl
    exact Hunk.newline_not_mem hl

/-- The lines that are read off a rendered diff. -/
theorem lines_render (d : Unified) :
    lines (render d).toList = (d.flatMap FileSection.lines).map dropReturn := by
  rw [render, String.toList_ofList, lines_unlines]
  intro l hl
  obtain ⟨s, -, hl⟩ := List.mem_flatMap.mp hl
  exact FileSection.newline_not_mem hl

/-! ### Changed lines -/

/-- Whether a body line adds or removes text. -/
def BodyLine.changes (b : BodyLine) : Bool := b.mark ≠ .context

/-- Whether a changed line starts with three of its marks, as file headers do. -/
def BodyLine.mimicsHeader (b : BodyLine) : Bool :=
  b.changes && [b.mark.char, b.mark.char].isPrefixOf b.text.chars

/-- The number of lines that a diff adds or removes. -/
def changes (d : Unified) : Nat := (body d).countP BodyLine.changes

/-- The number of changed lines that start like a file header. -/
def hidden (d : Unified) : Nat := (body d).countP BodyLine.mimicsHeader

/-! ### Line by line -/

/-- A body line is counted if it is changed and does not start like a file header. -/
theorem isChange_bodyLine (b : BodyLine) :
    isChange (dropReturn b.chars) = (b.changes && !b.mimicsHeader) := by
  obtain ⟨mark, text, _⟩ := b
  have hstart : ∀ c : Char, c ≠ '\r' →
      [c, c].isPrefixOf (dropReturn text) = [c, c].isPrefixOf text := by
    intro c hc
    exact isPrefixOf_dropReturn (by simp [hc.symm]) text
  have hdrop : dropReturn ([mark.char] ++ text) = [mark.char] ++ dropReturn text :=
    dropReturn_append (by cases mark <;> decide) text
  rw [List.singleton_append, List.singleton_append] at hdrop
  rw [BodyLine.chars, hdrop]
  cases mark with
  | context => simp [isChange, BodyLine.changes, Mark.char]
  | removed =>
    have h := hstart '-' (by decide)
    simp [isChange, BodyLine.changes, BodyLine.mimicsHeader, Mark.char, h]
  | added =>
    have h := hstart '+' (by decide)
    simp [isChange, BodyLine.changes, BodyLine.mimicsHeader, Mark.char, h]

/-- Headers and the ranges of hunks are no changes. -/
theorem isChange_marked {marker : List Char}
    (hm : marker = oldMarker ∨ marker = newMarker ∨ marker = rangeMarker) (rest : List Char) :
    isChange (dropReturn (marker ++ rest)) = false := by
  rcases hm with rfl | rfl | rfl
  · rw [dropReturn_append (by decide)]
    simp [isChange, oldMarker]
  · rw [dropReturn_append (by decide)]
    simp [isChange, newMarker]
  · rw [dropReturn_append (by decide)]
    simp [isChange, rangeMarker]

/-! ### Section by section -/

/-- The changes that are counted in some body lines. -/
def counted (bs : List BodyLine) : Nat := bs.countP fun b => b.changes && !b.mimicsHeader

theorem Hunk.countP_lines (h : Hunk) :
    h.lines.countP (isChange ∘ dropReturn) = counted h.body := by
  have hr : isChange (dropReturn (rangeMarker ++ h.range.chars)) = false :=
    isChange_marked (.inr (.inr rfl)) _
  have hb : (isChange ∘ dropReturn) ∘ BodyLine.chars = fun b => b.changes && !b.mimicsHeader :=
    funext isChange_bodyLine
  rw [Hunk.lines, List.countP_cons, List.countP_map, hb, Function.comp_apply, hr, counted]
  simp

theorem FileSection.countP_lines (s : FileSection) :
    s.lines.countP (isChange ∘ dropReturn) = counted s.body := by
  have ho : isChange (dropReturn (oldMarker ++ s.oldHeader.chars)) = false :=
    isChange_marked (.inl rfl) _
  have hn : isChange (dropReturn (newMarker ++ s.newHeader.chars)) = false :=
    isChange_marked (.inr (.inl rfl)) _
  have hh : List.countP (isChange ∘ dropReturn) ∘ Hunk.lines = counted ∘ Hunk.body :=
    funext Hunk.countP_lines
  rw [FileSection.lines, FileSection.body, List.countP_cons, List.countP_cons,
    List.countP_flatMap, hh, counted, List.countP_flatMap, Function.comp_apply,
    Function.comp_apply, ho, hn]
  rfl

theorem changedLines_eq_counted (d : Unified) : changedLines (render d) = counted (body d) := by
  have hs : List.countP (isChange ∘ dropReturn) ∘ FileSection.lines = counted ∘ FileSection.body :=
    funext FileSection.countP_lines
  rw [changedLines, lines_render, List.countP_map, List.countP_flatMap, hs, counted, body,
    List.countP_flatMap]
  rfl

/-- What is counted and what is hidden make up all changes. -/
theorem changedLines_add_hidden (d : Unified) :
    changedLines (render d) + hidden d = changes d := by
  rw [changedLines_eq_counted, counted, hidden, changes]
  induction body d with
  | nil => rfl
  | cons b bs ih =>
    simp only [List.countP_cons, ← ih]
    cases hc : b.changes with
    | false =>
      have hm : b.mimicsHeader = false := by rw [BodyLine.mimicsHeader, hc, Bool.false_and]
      simp [hm]
    | true => cases b.mimicsHeader <;> simp <;> omega

/-! ### The limit on changed lines -/

/-- The count of changes is wrong exactly if some changed line starts like a file header. It is
then too small by the number of these lines, and so is the limit that the gate keeps. -/
theorem changedLines_wrong_iff (d : Unified) (policy : GatePolicy) (reported : List String)
    (count : UInt64) :
    (changedLines (render d) ≠ changes d ↔ ∃ b ∈ body d, b.mimicsHeader = true) ∧
      changedLines (render d) + hidden d = changes d ∧
      (policy.check ⟨render d, reported, count⟩ = .ok () →
        changes d ≤ policy.maxLines.toNat + hidden d) := by
  have hsum := changedLines_add_hidden d
  refine ⟨?_, hsum, ?_⟩
  · have hpos : 0 < hidden d ↔ ∃ b ∈ body d, b.mimicsHeader = true := List.countP_pos_iff
    rw [← hpos]
    omega
  · intro hok
    obtain ⟨-, hle, -⟩ := GatePolicy.check_eq_ok_iff.mp hok
    rw [← hsum]
    exact Nat.add_le_add_right hle _

/-- A diff that takes one line out, which starts with two dashes. -/
def commentRemoved : Unified := [{
  oldHeader := ⟨"a/query.sql".toList, by decide⟩
  newHeader := ⟨"b/query.sql".toList, by decide⟩
  hunks := [{
    range := ⟨"-1 +0,0 @@".toList, by decide⟩
    body := [⟨.removed, ⟨"-- note".toList, by decide⟩⟩] }] }]

theorem changedLines_wrong_comment :
    ({} : GatePolicy).check ⟨render commentRemoved, [], 0⟩ = .ok () ∧
      changedLines (render commentRemoved) ≠ changes commentRemoved ∧
      changes commentRemoved ≤ ({} : GatePolicy).maxLines.toNat + hidden commentRemoved := by
  obtain ⟨hiff, -, hle⟩ := changedLines_wrong_iff commentRemoved {} [] 0
  have hok : ({} : GatePolicy).check ⟨render commentRemoved, [], 0⟩ = .ok () := by
    decide +kernel
  exact ⟨hok, hiff.mpr ⟨_, List.mem_cons_self, rfl⟩, hle hok⟩

/-- So a gate that allows no change at all lets this one through. -/
theorem not_changes_le_maxLines :
    ¬ ∀ (d : Unified) (policy : GatePolicy),
      changedLines (render d) = changes d ∧
        (policy.check (.ofDiff (render d)) = .ok () → changes d ≤ policy.maxLines.toNat) := by
  intro h
  have hok : ({ maxLines := 0 } : GatePolicy).check (.ofDiff (render commentRemoved)) = .ok () := by
    decide +kernel
  have hle := (h commentRemoved { maxLines := 0 }).2 hok
  exact absurd hle (by decide)

end PatchTrial.Diff
