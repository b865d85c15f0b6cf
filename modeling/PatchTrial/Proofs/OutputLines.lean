import Mathlib.Data.Finset.Dedup
import PatchTrial.Failure.Classify
import PatchTrial.Proofs.PathSpelling

/-!
# The lines that a reason is read off

Some groups of phrases are searched for in the whole output and some line by line, next to a word
or behind the name of a shell. No phrase has a line break, so each group is a sign that single lines
show, and the output shows it exactly if one of its lines does. Which stream a line is on, where it
stands there and how often makes no difference, nor do the case of its letters and blanks at its
end.

With more lines there are more signs, and the reason is that of the first group whose sign shows.
-/
namespace PatchTrial

namespace Text

/-! ### Pieces of a text -/

/-- A text is a piece, or a piece in front of a separator and another text. -/
theorem pieces_induction {p : Char → Bool} {motive : List Char → Prop}
    (piece : ∀ w, (∀ c ∈ w, p c = false) → motive w)
    (append : ∀ w sep cs, (∀ c ∈ w, p c = false) → p sep = true → motive cs →
      motive (w ++ sep :: cs)) (cs : List Char) : motive cs := by
  -- the induction is on what follows the piece that is being read
  have hbehind : ∀ w, (∀ c ∈ w, p c = false) → motive (w ++ cs) := by
    induction cs with
    | nil =>
      intro w hw
      rw [List.append_nil]
      exact piece w hw
    | cons c cs ih =>
      intro w hw
      cases hc : p c with
      | true => exact append w c cs hw hc (ih [] (List.forall_mem_nil _))
      | false =>
        have hlonger : ∀ d ∈ w ++ [c], p d = false :=
          List.forall_mem_append.mpr ⟨hw, List.forall_mem_singleton.mpr hc⟩
        have h := ih (w ++ [c]) hlonger
        rwa [List.append_assoc, List.singleton_append] at h
  exact hbehind [] (List.forall_mem_nil _)

/-- What has no separator occurs in a text exactly if it occurs in one of the pieces. -/
theorem infix_iff_exists_piece {p : Char → Bool} {part : List Char}
    (h : ∀ c ∈ part, p c = false) (cs : List Char) :
    part <:+: cs ↔ ∃ w ∈ pieces p cs, part <:+: w := by
  induction cs using pieces_induction (p := p) with
  | piece w hw => simp [pieces_eq_singleton hw]
  | append w sep cs hw hsep ih =>
    have hpart : sep ∉ part := by
      intro hmem
      cases (h sep hmem).symm.trans hsep
    rw [infix_append_cons_iff hpart, ih, pieces_append hw hsep, List.exists_mem_cons_iff]

theorem splitAt?_concat {sep b : Char} (h : b ≠ sep) (cs : List Char) :
    splitAt? sep (cs ++ [b]) = (splitAt? sep cs).map fun (head, rest) => (head, rest ++ [b]) := by
  induction cs with
  | nil => simp [splitAt?, h]
  | cons c cs ih =>
    rw [List.cons_append, splitAt?, splitAt?, ih]
    split
    · rfl
    · rw [Option.map_map, Option.map_map]
      rfl

/-! ### Lower case -/

theorem foldChar_of_isAlpha {c : Char} (h : c.isAlpha = true) : foldChar c = [c.toLower] := by
  have hrange := toNat_of_isAlpha h
  rw [foldChar, if_neg (by omega), if_neg (by omega)]

theorem foldChar_toLower (c : Char) : foldChar c.toLower = foldChar c := by
  by_cases hc : c.isUpper = true
  · rw [foldChar_of_isAlpha (isAlpha_toLower hc), foldChar_of_isAlpha (isAlpha_of_isUpper hc),
      toLower_toLower]
  · rw [toLower_of_not_isUpper hc]

theorem foldChar_of_isBlank {b : Char} (hb : isBlank b = true) : foldChar b = [b] := by
  have hupper : ¬b.isUpper = true := by
    intro h
    cases (not_isBlank_of_isAlpha (isAlpha_of_isUpper h)).symm.trans hb
  have hdot : b.toNat ≠ 0x212A ∧ b.toNat ≠ 0x130 := by
    simp only [isBlank, Bool.or_eq_true, Bool.and_eq_true, decide_eq_true_eq, beq_iff_eq] at hb
    omega
  rw [foldChar, if_neg hdot.1, if_neg hdot.2, toLower_of_not_isUpper hupper]

theorem not_mem_foldChar {c : Char} (h : c ≠ '\n') : '\n' ∉ foldChar c := by
  unfold foldChar
  split
  · decide
  split
  · decide
  · rw [List.mem_singleton, eq_comm, toLower_eq_iff (by decide)]
    exact h

theorem fold_append (xs ys : List Char) : fold (xs ++ ys) = fold xs ++ fold ys :=
  List.flatMap_append

theorem fold_concat {b : Char} (hb : isBlank b = true) (cs : List Char) :
    fold (cs ++ [b]) = fold cs ++ [b] := by
  rw [fold_append, fold, fold, List.flatMap_singleton, foldChar_of_isBlank hb]

theorem fold_asciiLower (cs : List Char) : fold (asciiLower cs) = fold cs := by
  rw [fold, asciiLower, List.flatMap_map, fold]
  exact List.flatMap_congr fun c _ => foldChar_toLower c

/-- Lower case keeps line breaks where they are. -/
theorem pieces_fold (cs : List Char) :
    pieces (· == '\n') (fold cs) = (pieces (· == '\n') cs).map fold := by
  have hpiece {w : List Char} (hw : ∀ c ∈ w, (c == '\n') = false) :
      ∀ c ∈ fold w, (c == '\n') = false := by
    intro c hc
    obtain ⟨d, hd, hcd⟩ := List.mem_flatMap.mp hc
    refine beq_false_of_ne ?_
    rintro rfl
    exact not_mem_foldChar (beq_eq_false_iff_ne.mp (hw d hd)) hcd
  induction cs using pieces_induction (p := (· == '\n')) with
  | piece w hw => rw [pieces_eq_singleton (hpiece hw), pieces_eq_singleton hw, List.map_singleton]
  | append w sep cs hw hsep ih =>
    have hbreak : fold (sep :: cs) = sep :: fold cs := by
      rw [beq_iff_eq.mp hsep]
      rfl
    rw [fold_append, hbreak, pieces_append (hpiece hw) hsep, pieces_append hw hsep, ih,
      List.map_cons]

/-! ### Signs of single lines -/

/-- A sign that no empty line shows, and that a blank at the end of a line neither gives nor
takes. -/
structure LineSign (sign : List Char → Bool) : Prop where
  nil : sign [] = false
  concat : ∀ l b, isBlank b = true → sign (l ++ [b]) = sign l

namespace LineSign

variable {sign sign' : List Char → Bool}

theorem or (h : LineSign sign) (h' : LineSign sign') : LineSign fun l => sign l || sign' l where
  nil := by rw [h.nil, h'.nil, Bool.or_false]
  concat l b hb := by rw [h.concat l b hb, h'.concat l b hb]

theorem and (h : LineSign sign) (h' : LineSign sign') : LineSign fun l => sign l && sign' l where
  nil := by rw [h.nil, Bool.false_and]
  concat l b hb := by rw [h.concat l b hb, h'.concat l b hb]

theorem any {α : Type} {each : α → List Char → Bool} {xs : List α}
    (h : ∀ x ∈ xs, LineSign (each x)) : LineSign fun l => xs.any (each · l) where
  nil := List.any_eq_false.mpr fun x hx => by simp [(h x hx).nil]
  concat l b hb := by
    rw [Bool.eq_iff_iff, List.any_eq_true, List.any_eq_true]
    exact exists_congr fun x => and_congr_right fun hx => by rw [(h x hx).concat l b hb]

/-- Of a line in lower case. -/
theorem comp_fold (h : LineSign sign) : LineSign fun l => sign (fold l) where
  nil := h.nil
  concat l b hb := by rw [fold_concat hb, h.concat _ b hb]

theorem append_blanks (h : LineSign sign) (l : List Char) {bs : List Char}
    (hbs : ∀ b ∈ bs, isBlank b = true) : sign (l ++ bs) = sign l := by
  induction bs using List.reverseRecOn with
  | nil => rw [List.append_nil]
  | append_singleton bs b ih =>
    rw [List.forall_mem_append, List.forall_mem_singleton] at hbs
    rw [← List.append_assoc, h.concat _ b hbs.2, ih hbs.1]

theorem trimEnd (h : LineSign sign) (l : List Char) : sign (Text.trimEnd l) = sign l := by
  obtain ⟨bs, hbs, hl⟩ := exists_trimEnd_append l
  conv_rhs => rw [hl]
  exact (h.append_blanks _ hbs).symm

theorem dropReturn (h : LineSign sign) (l : List Char) : sign (Text.dropReturn l) = sign l := by
  rcases dropReturn_cases l with ⟨-, hl⟩ | hl
  · rw [hl]
  · conv_rhs => rw [hl]
    exact (h.concat _ '\r' (by decide)).symm

theorem any_ofPieces (h : LineSign sign) (ws : List (List Char)) :
    (lines.ofPieces ws).any sign = ws.any sign := by
  induction ws using lines.ofPieces.induct with
  | case1 => rfl
  | case2 last hlast =>
    rw [lines.ofPieces, if_pos hlast, List.isEmpty_iff.mp hlast, List.any_cons, h.nil]
    rfl
  | case3 last hlast => rw [lines.ofPieces, if_neg hlast]
  | case4 w ws hws ih =>
    rw [lines.ofPieces, List.any_cons, List.any_cons, h.dropReturn, ih]
    exact hws

/-- Line breaks are no part of what lines show. -/
theorem any_lines (h : LineSign sign) (cs : List Char) :
    (lines cs).any sign = (pieces (· == '\n') cs).any sign :=
  h.any_ofPieces _

end LineSign

end Text

namespace StepRun

open Text

/-- The lines that a step printed, on either stream, without regard to the case of ASCII letters and
to blanks at their ends. -/
def outputLines (r : StepRun) : Finset (List Char) :=
  ((lines r.stdout.toList ++ lines r.stderr.toList).map fun l => asciiLower (trimEnd l)).toFinset

theorem pieces_combinedOutput (r : StepRun) {sign : List Char → Bool} (h : sign [] = false) :
    (pieces (· == '\n') r.combinedOutput.toList).any sign =
      ((pieces (· == '\n') r.stdout.toList).any sign ||
        (pieces (· == '\n') r.stderr.toList).any sign) := by
  have hnil : (pieces (· == '\n') []).any sign = false := by
    rw [pieces, List.any_cons, h]
    rfl
  unfold combinedOutput
  split
  next hempty =>
    -- without a break between the streams, the empty one is an empty piece
    rw [Bool.or_eq_true, String.isEmpty_iff, String.isEmpty_iff] at hempty
    rcases hempty with hout | herr
    · rw [hout, String.toList_empty, hnil, Bool.false_or, String.empty_append]
    · rw [herr, String.toList_empty, hnil, Bool.or_false, String.append_empty]
  next =>
    have hbreak : "\n".toList = ['\n'] := rfl
    rw [String.toList_append, String.toList_append, hbreak, List.append_assoc,
      List.singleton_append, pieces_append_sep rfl, List.any_append]

/-- The output shows the sign of a line exactly if one of the printed lines does. -/
theorem any_combinedOutput (r : StepRun) {sign : List Char → Bool} (h : LineSign sign) :
    (pieces (· == '\n') (fold r.combinedOutput.toList)).any sign = true ↔
      ∃ x ∈ r.outputLines, sign (fold x) = true := by
  have hfold := h.comp_fold
  have hline (l : List Char) : sign (fold (asciiLower (trimEnd l))) = sign (fold l) := by
    rw [fold_asciiLower]
    exact hfold.trimEnd l
  have hlines : (pieces (· == '\n') (fold r.combinedOutput.toList)).any sign =
      (lines r.stdout.toList ++ lines r.stderr.toList).any fun l => sign (fold l) := by
    rw [pieces_fold, List.any_map, List.any_append, hfold.any_lines, hfold.any_lines]
    exact r.pieces_combinedOutput hfold.nil
  rw [hlines, List.any_eq_true]
  simp only [outputLines, List.mem_toFinset, List.mem_map, exists_exists_and_eq_and, hline]

end StepRun

namespace Failure

open Text

/-! ### Groups of phrases -/

/-- A phrase has no line break and does not end with a blank. -/
structure IsPhrase (p : List Char) : Prop where
  unbroken : ∀ c ∈ p, (c == '\n') = false
  last : ∃ c, p.getLast? = some c ∧ isBlank c = false

theorem isPhrase_of_all {phrases : List String} (h : (phrases.all fun p =>
    p.toList.all (· != '\n') && p.toList.getLast?.any (!isBlank ·)) = true) :
    ∀ p ∈ phrases, IsPhrase p.toList := by
  intro p hp
  obtain ⟨hunbroken, hlast⟩ := (Bool.and_eq_true _ _).mp (List.all_eq_true.mp h p hp)
  constructor
  · intro c hc
    simpa using List.all_eq_true.mp hunbroken c hc
  · obtain ⟨c, hc, hblank⟩ := Option.any_eq_true _ _ |>.mp hlast
    exact ⟨c, hc, by simpa using hblank⟩

theorem lineSign_occursIn {p : List Char} (h : IsPhrase p) : LineSign (occursIn p) := by
  obtain ⟨c, hlast, hblank⟩ := h.last
  obtain ⟨start, rfl⟩ := List.getLast?_eq_some_iff.mp hlast
  constructor
  · rw [occursIn]
    simp
  · intro l b hb
    rw [Bool.eq_iff_iff, occursIn_iff, occursIn_iff, List.infix_concat_iff]
    refine ⟨?_, Or.inr⟩
    rintro (hsuffix | hinfix)
    · obtain ⟨rest, hrest⟩ := hsuffix
      rw [← List.append_assoc] at hrest
      obtain ⟨-, hcb⟩ := List.append_inj' hrest rfl
      cases hcb
      cases hblank.symm.trans hb
    · exact hinfix

theorem lineSign_mentions {phrases : List String} (h : ∀ p ∈ phrases, IsPhrase p.toList) :
    LineSign (mentions phrases) :=
  .any fun p hp => lineSign_occursIn (h p hp)

/-- No phrase is found across a line break. -/
theorem mentions_eq_any_pieces {phrases : List String} (h : ∀ p ∈ phrases, IsPhrase p.toList)
    (text : List Char) :
    mentions phrases text = (pieces (· == '\n') text).any (mentions phrases) := by
  rw [Bool.eq_iff_iff, List.any_eq_true]
  simp only [mentions, List.any_eq_true, occursIn_iff]
  constructor
  · rintro ⟨p, hp, hinfix⟩
    obtain ⟨l, hl, hpl⟩ := (infix_iff_exists_piece (h p hp).unbroken text).mp hinfix
    exact ⟨l, hl, p, hp, hpl⟩
  · rintro ⟨l, hl, p, hp, hpl⟩
    exact ⟨p, hp, (infix_iff_exists_piece (h p hp).unbroken text).mpr ⟨l, hl, hpl⟩⟩

theorem not_isBlank_of_isNamePart {c : Char} (h : isNamePart c = true) : isBlank c = false := by
  rw [isNamePart, Char.isAlphanum, Bool.or_eq_true, Bool.or_eq_true, Bool.or_eq_true, beq_iff_eq,
    beq_iff_eq] at h
  rcases h with ((halpha | hdigit) | rfl) | rfl
  · exact not_isBlank_of_isAlpha halpha
  · have hrange : 0x30 ≤ c.toNat ∧ c.toNat ≤ 0x39 := Char.isDigit_iff_toNat.mp hdigit
    simp only [isBlank, Bool.or_eq_false_iff, Bool.and_eq_false_iff, decide_eq_false_iff_not,
      beq_eq_false_iff_ne]
    omega
  · rfl
  · rfl

theorem lineSign_mentionsWord {word : String} (h : word.toList ≠ []) :
    LineSign (mentionsWord word) := by
  constructor
  · simpa [mentionsWord, pieces] using h
  · intro l b hb
    have hsep : (!isNamePart b) = true := by
      rw [Bool.not_eq_true']
      refine Bool.eq_false_iff.mpr fun hname => ?_
      cases (not_isBlank_of_isNamePart hname).symm.trans hb
    rw [mentionsWord, pieces_append_sep hsep]
    simp [mentionsWord, pieces, h]

theorem lineSign_reportedByShell : LineSign reportedByShell := by
  constructor
  · rfl
  · intro l b hb
    have hcolon : b ≠ ':' := by
      rintro rfl
      cases hb
    have htrim : trimStart (l ++ [b]) = trimStart l ++ [b] ∨
        trimStart (l ++ [b]) = trimStart l := by
      rw [trimStart, List.dropWhile_append, ← trimStart]
      split
      next hempty =>
        -- a line of blanks is trimmed to nothing with one more blank, too
        rw [List.dropWhile_cons_of_pos hb, List.isEmpty_iff.mp hempty]
        exact Or.inr rfl
      next => exact Or.inl rfl
    unfold reportedByShell
    rcases htrim with htrim | htrim
    · rw [htrim, splitAt?_concat hcolon]
      cases splitAt? ':' (trimStart l) <;> rfl
    · rw [htrim]

theorem isPhrase_memory : ∀ p ∈ memoryPhrases, IsPhrase p.toList :=
  isPhrase_of_all (by decide +kernel)

theorem isPhrase_lockfile : ∀ p ∈ lockfilePhrases, IsPhrase p.toList :=
  isPhrase_of_all (by decide +kernel)

theorem isPhrase_engine : ∀ p ∈ enginePhrases, IsPhrase p.toList :=
  isPhrase_of_all (by decide +kernel)

theorem isPhrase_missingCommand : ∀ p ∈ missingCommandPhrases, IsPhrase p.toList :=
  isPhrase_of_all (by decide +kernel)

theorem isPhrase_missingPath : ∀ p ∈ missingPathPhrases, IsPhrase p.toList :=
  isPhrase_of_all (by decide +kernel)

theorem isPhrase_wrapperNames : ∀ p ∈ wrapperNames, IsPhrase p.toList :=
  isPhrase_of_all (by decide +kernel)

theorem lineSign_missesDevTool : LineSign missesDevTool := by
  have htool : ∀ t ∈ devTools, t.toList ≠ [] := by decide +kernel
  exact .and (.or (lineSign_mentions isPhrase_missingCommand)
    (lineSign_mentions isPhrase_missingPath)) (.any fun t ht => lineSign_mentionsWord (htool t ht))

theorem lineSign_missesCommand : LineSign missesCommand :=
  .or (lineSign_mentions isPhrase_missingCommand) (.and (lineSign_mentions isPhrase_missingPath)
    (.or lineSign_reportedByShell (lineSign_mentions isPhrase_wrapperNames)))

/-! ### Signs of a text -/

/-- A sign of a text that single lines show. -/
structure ShownByLine (sign : List Char → Bool) (line : List Char → Bool) : Prop where
  lineSign : LineSign line
  eq_any : ∀ text, sign text = (pieces (· == '\n') text).any line

theorem shownByLine_mentions {phrases : List String} (h : ∀ p ∈ phrases, IsPhrase p.toList) :
    ShownByLine (mentions phrases) (mentions phrases) :=
  ⟨lineSign_mentions h, mentions_eq_any_pieces h⟩

theorem shownByLine_any_lines {line : List Char → Bool} (h : LineSign line) :
    ShownByLine (fun text => (lines text).any line) line :=
  ⟨h, h.any_lines⟩

/-- More lines show more signs. -/
theorem ShownByLine.mono {sign line : List Char → Bool} (h : ShownByLine sign line)
    {r r' : StepRun} (hlines : r.outputLines ⊆ r'.outputLines)
    (hshown : sign (fold r.combinedOutput.toList) = true) :
    sign (fold r'.combinedOutput.toList) = true := by
  rw [h.eq_any, StepRun.any_combinedOutput _ h.lineSign] at hshown ⊢
  obtain ⟨x, hx, hsign⟩ := hshown
  exact ⟨x, hlines hx, hsign⟩

/-- Which groups of phrases an output shows. -/
@[ext]
structure Signs where
  memory : Bool
  lockfile : Bool
  devTool : Bool
  command : Bool
  wrapper : Bool
  engine : Bool

namespace Signs

def ofOutput (output : List Char) : Signs where
  memory := mentions memoryPhrases output
  lockfile := mentions lockfilePhrases output
  devTool := (lines output).any missesDevTool
  command := (lines output).any missesCommand
  wrapper := mentions wrapperNames output
  engine := mentions enginePhrases output

/-- The reason for a failed step whose output shows these signs. -/
def reason (s : Signs) (step : Option Step) : Reason :=
  if s.memory then
    if step = some .test then .concurrencyOom else .oom
  else if s.lockfile then .lockfileDrift
  else if s.devTool then .missingDevDependencies
  else if s.command then
    if s.wrapper then .wrapperMissing else .commandNotFound
  else if s.engine then .engineMismatch
  else defaultReason step

/-- Each sign of the one is a sign of the other. -/
structure Within (s t : Signs) : Prop where
  memory : s.memory = true → t.memory = true
  lockfile : s.lockfile = true → t.lockfile = true
  devTool : s.devTool = true → t.devTool = true
  command : s.command = true → t.command = true
  wrapper : s.wrapper = true → t.wrapper = true
  engine : s.engine = true → t.engine = true

theorem Within.antisymm {s t : Signs} (hst : s.Within t) (hts : t.Within s) : s = t :=
  Signs.ext (Bool.eq_iff_iff.mpr ⟨hst.memory, hts.memory⟩)
    (Bool.eq_iff_iff.mpr ⟨hst.lockfile, hts.lockfile⟩)
    (Bool.eq_iff_iff.mpr ⟨hst.devTool, hts.devTool⟩)
    (Bool.eq_iff_iff.mpr ⟨hst.command, hts.command⟩)
    (Bool.eq_iff_iff.mpr ⟨hst.wrapper, hts.wrapper⟩)
    (Bool.eq_iff_iff.mpr ⟨hst.engine, hts.engine⟩)

theorem within_of_subset {r r' : StepRun} (h : r.outputLines ⊆ r'.outputLines) :
    (ofOutput (fold r.combinedOutput.toList)).Within
      (ofOutput (fold r'.combinedOutput.toList)) := by
  unfold ofOutput
  constructor <;> dsimp only
  · exact (shownByLine_mentions isPhrase_memory).mono h
  · exact (shownByLine_mentions isPhrase_lockfile).mono h
  · exact (shownByLine_any_lines lineSign_missesDevTool).mono h
  · exact (shownByLine_any_lines lineSign_missesCommand).mono h
  · exact (shownByLine_mentions isPhrase_wrapperNames).mono h
  · exact (shownByLine_mentions isPhrase_engine).mono h

end Signs

end Failure

/-- The place of the group that a reason belongs to, in the order in which they are searched for. -/
def Reason.priority : Reason → Nat
  | .oom | .concurrencyOom => 0
  | .lockfileDrift => 1
  | .missingDevDependencies => 2
  | .wrapperMissing => 3
  | .commandNotFound => 4
  | .engineMismatch => 5
  | .installFailed | .buildFailed | .typecheckFailed | .testFailed | .unknown => 6

namespace Failure

open Text

theorem reasonFor_eq (step : Option Step) (output : List Char) :
    reasonFor step output = (Signs.ofOutput output).reason step :=
  rfl

theorem priority_defaultReason (step : Option Step) : (defaultReason step).priority = 6 := by
  rcases step with _ | step
  · rfl
  · cases step <;> rfl

theorem Signs.priority_reason (s : Signs) (step : Option Step) :
    (s.reason step).priority =
      if s.memory then 0 else if s.lockfile then 1 else if s.devTool then 2
      else if s.command then if s.wrapper then 3 else 4
      else if s.engine then 5 else 6 := by
  rw [reason]
  split_ifs <;> first | rfl | exact priority_defaultReason step

/-- If the one condition implies the other, the smaller alternatives go with the weaker one. -/
theorem ite_le_ite_of_imp {p q : Prop} [Decidable p] [Decidable q] {a a' b b' : Nat} (h : p → q)
    (ha : a' ≤ a) (hb : b' ≤ b) (hab : a' ≤ b) : (if q then a' else b') ≤ if p then a else b := by
  by_cases hq : q
  · rw [if_pos hq]
    split
    · exact ha
    · exact hab
  · rw [if_neg hq, if_neg (mt h hq)]
    exact hb

theorem Signs.Within.priority_le {s t : Signs} (h : s.Within t) (step : Option Step) :
    (t.reason step).priority ≤ (s.reason step).priority := by
  rw [Signs.priority_reason, Signs.priority_reason]
  refine ite_le_ite_of_imp h.memory le_rfl ?_ (Nat.zero_le _)
  refine ite_le_ite_of_imp h.lockfile le_rfl ?_ (by split_ifs <;> decide)
  refine ite_le_ite_of_imp h.devTool le_rfl ?_ (by split_ifs <;> decide)
  refine ite_le_ite_of_imp h.command ?_ ?_ (by split_ifs <;> decide)
  · exact ite_le_ite_of_imp h.wrapper le_rfl le_rfl (by decide)
  · exact ite_le_ite_of_imp h.engine le_rfl le_rfl (by decide)

theorem reason_classify {α : Type} {run : PipelineRun α} {r : StepRun}
    (h : run.firstFailure? = some r) (excerpt : Nat) : (classify excerpt run).reason =
      (Signs.ofOutput (fold r.combinedOutput.toList)).reason r.pipelineStep? := by
  rw [classify, h, ← reasonFor_eq]

/-- The reason hangs on the first failed step and the set of its output lines, and more lines move
it to no later group. -/
theorem reason_of_outputLines {α β : Type} (run : PipelineRun α) (run' : PipelineRun β)
    (excerpt excerpt' : Nat) :
    (run.firstFailure? = none → (classify excerpt run).reason = .unknown) ∧
      ∀ r r', run.firstFailure? = some r → run'.firstFailure? = some r' → r.step = r'.step →
        (r.outputLines = r'.outputLines →
          (classify excerpt run).reason = (classify excerpt' run').reason) ∧
        (r.outputLines ⊆ r'.outputLines →
          (classify excerpt' run').reason.priority ≤ (classify excerpt run).reason.priority) := by
  constructor
  · intro h
    rw [classify, h]
    rfl
  · intro r r' hr hr' hname
    have hstep : r'.pipelineStep? = r.pipelineStep? := by
      rw [StepRun.pipelineStep?, StepRun.pipelineStep?, hname]
    rw [reason_classify hr, reason_classify hr', hstep]
    constructor
    · intro hlines
      rw [(Signs.within_of_subset hlines.subset).antisymm (Signs.within_of_subset hlines.superset)]
    · intro hlines
      exact (Signs.within_of_subset hlines).priority_le _

def failedBuild (stdout stderr : String) : StepRun :=
  ⟨"build", "make", 2, 10, stdout, stderr, false⟩

/-- A run whose build failed with this output, behind an installation that did not fail. -/
def runOfBuild (stdout stderr : String) : PipelineRun Unit where
  steps := [⟨"install", "npm ci", 0, 10, "out of memory\n", "", false⟩, failedBuild stdout stderr]
  succeeded := false
  error := none
  measurement := none

theorem firstFailure?_runOfBuild (stdout stderr : String) :
    (runOfBuild stdout stderr).firstFailure? = some (failedBuild stdout stderr) :=
  rfl

/-- The streams are swapped, a line is moved, repeated and written in capitals. Then a line about a
wrapper is added, which also changes the reason of the line about the shell. -/
theorem reason_of_outputLines_wrapper :
    let one := runOfBuild "sh: cc: not found\nstopped" "make: error 1\r\n"
    let other := runOfBuild "make: error 1\n" "stopped\nSH: CC: NOT FOUND\nstopped\n"
    let more := runOfBuild "see gradlew\nsh: cc: not found\nstopped" "make: error 1\r\n"
    (classify 80 one).reason = .commandNotFound ∧ (classify 80 more).reason = .wrapperMissing ∧
      (classify 80 one).reason = (classify 4 other).reason ∧
      (classify 80 more).reason.priority ≤ (classify 80 one).reason.priority := by
  intro one other more
  have hone := firstFailure?_runOfBuild "sh: cc: not found\nstopped" "make: error 1\r\n"
  obtain ⟨-, hother⟩ := reason_of_outputLines one other 80 4
  obtain ⟨-, hmore⟩ := reason_of_outputLines one more 80 80
  obtain ⟨hsame, -⟩ := hother _ _ hone (firstFailure?_runOfBuild _ _) rfl
  obtain ⟨-, hlater⟩ := hmore _ _ hone (firstFailure?_runOfBuild _ _) rfl
  exact ⟨by decide +kernel, by decide +kernel, hsame (by decide +kernel),
    hlater (by decide +kernel)⟩

end Failure

end PatchTrial
