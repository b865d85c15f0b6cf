import Mathlib.Data.List.TakeWhile
import PatchTrial.Proofs.Gate
import PatchTrial.Proofs.UnifiedDiff

/-!
# The paths in the headers of a diff

The reader of diffs names one file for each file section: that of the `+++` header, or that of the
`---` header if the other names none. So of a section with two different paths the gate sees the
new one only. Body lines that look like a `+++` header may add names; they never take one away. The
last section allows any lines in the hunks, marked or not, and timestamps in the headers.
-/
namespace PatchTrial.Diff

open Text

/-- A path as it may stand in a header, behind its first component. -/
structure HeaderPath where
  chars : List Char
  ne_nil : chars ≠ []
  no_tab : '\t' ∉ chars
  one_line : '\n' ∉ chars
  trimmed : ∀ c, chars.getLast? = some c → isBlank c = false

def HeaderPath.text (p : HeaderPath) : String := String.ofList p.chars

/-- The file that a section is for, as it is read off its headers. -/
def FileSection.target? (s : FileSection) : Option (List Char) :=
  (headerPath? s.newHeader.chars).or (headerPath? s.oldHeader.chars)

/-! ### One header -/

/-- The name in a file header, with all its components. -/
def headerName (header : List Char) : List Char := trim (header.takeWhile (· != '\t'))

theorem headerName_dropReturn (header : List Char) :
    headerName (dropReturn header) = headerName header := by
  rcases dropReturn_cases header with ⟨-, heq⟩ | heq
  · rw [heq]
  · unfold headerName
    conv_rhs => rw [heq, List.takeWhile_append]
    split
    next hall =>
      rw [List.takeWhile_cons_of_pos (by decide), List.takeWhile_nil, trim_concat (by decide)]
      rw [(List.takeWhile_prefix _).eq_of_length hall]
    next => rfl

theorem headerPath?_dropReturn (header : List Char) :
    headerPath? (dropReturn header) = headerPath? header := by
  rw [headerPath?, headerPath?, ← headerName, ← headerName, headerName_dropReturn]

/-- The first component is dropped from a path that stands in a header. -/
theorem headerPath?_path (p : HeaderPath) {top : Char} (hb : isBlank top = false)
    (hs : top ≠ '/') : headerPath? (top :: '/' :: p.chars) = some p.chars := by
  have ht : top ≠ '\t' := by
    rintro rfl
    exact absurd hb (by decide)
  have htake : (top :: '/' :: p.chars).takeWhile (· != '\t') = top :: '/' :: p.chars := by
    refine List.takeWhile_eq_self_iff.mpr ?_
    intro c hc
    rw [bne_iff_ne]
    rintro rfl
    rcases List.mem_cons.mp hc with h | h
    · exact ht h.symm
    · rcases List.mem_cons.mp h with h | h
      · exact absurd h (by decide)
      · exact p.no_tab h
  have htrim : trim (top :: '/' :: p.chars) = top :: '/' :: p.chars := by
    refine trim_eq_self ?_ ?_
    · rintro c ⟨⟩
      exact hb
    · intro c hc
      obtain ⟨x, xs, hx⟩ := List.exists_cons_of_ne_nil p.ne_nil
      rw [hx, List.getLast?_cons_cons, List.getLast?_cons_cons, ← hx] at hc
      exact p.trimmed c hc
  have hnull : (top :: '/' :: p.chars == "/dev/null".toList) = false := by
    refine beq_false_of_ne ?_
    intro h
    exact hs (List.cons.inj h).1
  have hdrop : dropComponent (top :: '/' :: p.chars) = p.chars := by
    simp [dropComponent, splitAt?, hs, p.ne_nil]
  simp only [headerPath?, htake, htrim, hnull, hdrop, List.isEmpty_cons, Bool.or_self,
    Bool.false_eq_true, if_false]

/-! ### Scanning the lines -/

theorem headerPaths_old (old : Option (List Char)) (header : List Char) (ls : List (List Char)) :
    headerPaths old ((oldMarker ++ header) :: ls) = headerPaths (headerPath? header) ls := by
  rfl

theorem headerPaths_new (old : Option (List Char)) (header : List Char) (ls : List (List Char)) :
    headerPaths old ((newMarker ++ header) :: ls) =
      ((headerPath? header).or old).toList ++ headerPaths none ls := by
  rfl

/-- What follows names the same files whatever stood before it, if it does not go by an old path
that was left over. -/
theorem headerPaths_append (ls : List (List Char)) {rest : List (List Char)}
    (hrest : ∀ old, headerPaths old rest = headerPaths none rest) (old : Option (List Char)) :
    headerPaths old (ls ++ rest) = headerPaths old ls ++ headerPaths none rest := by
  induction ls generalizing old with
  | nil => exact hrest old
  | cons l ls ih =>
    simp only [List.cons_append, headerPaths]
    split
    · exact ih _
    split
    · rw [ih, List.append_assoc]
    · exact ih _

/-- Only a line that looks like a new header names a file. -/
theorem headerPaths_eq_nil {ls : List (List Char)}
    (h : ∀ l ∈ ls, newMarker.isPrefixOf l = false) (old : Option (List Char)) :
    headerPaths old (ls.map dropReturn) = [] := by
  induction ls generalizing old with
  | nil => rfl
  | cons l ls ih =>
    rw [List.forall_mem_cons] at h
    have hstart : newMarker.isPrefixOf (dropReturn l) = false :=
      (isPrefixOf_dropReturn (by decide) l).trans h.1
    have hn : afterStart? ['+', '+', '+', ' '] (dropReturn l) = none :=
      if_neg (Bool.eq_false_iff.mp hstart)
    simp only [List.map_cons, headerPaths, hn]
    split
    · exact ih h.2 _
    · exact ih h.2 _

/-! ### Section by section -/

/-- The files that the hunks of a section seem to name. -/
def FileSection.seeming (s : FileSection) : List (List Char) :=
  headerPaths none ((s.hunks.flatMap Hunk.lines).map dropReturn)

/-- A section names the file of its headers, then those that the lines below seem to name. -/
theorem headerPaths_headed (oldHeader newHeader : List Char) (below : List (List Char))
    {rest : List (List Char)} (hrest : ∀ old, headerPaths old rest = headerPaths none rest)
    (old : Option (List Char)) :
    headerPaths old (((oldMarker ++ oldHeader) :: (newMarker ++ newHeader) :: below).map dropReturn
        ++ rest) =
      ((headerPath? newHeader).or (headerPath? oldHeader)).toList ++
        headerPaths none (below.map dropReturn) ++ headerPaths none rest := by
  rw [List.map_cons, List.map_cons, dropReturn_append (by decide),
    dropReturn_append (by decide), List.cons_append, List.cons_append, headerPaths_old,
    headerPaths_new, headerPath?_dropReturn, headerPath?_dropReturn, headerPaths_append _ hrest,
    List.append_assoc]

/-- Each section starts anew: no old path is left over from the one before it. -/
theorem headerPaths_flatMap {Section : Type} {lines named : Section → List (List Char)}
    (h : ∀ s rest, (∀ old, headerPaths old rest = headerPaths none rest) →
      ∀ old, headerPaths old ((lines s).map dropReturn ++ rest) =
        named s ++ headerPaths none rest) (d : List Section) (old : Option (List Char)) :
    headerPaths old ((d.flatMap lines).map dropReturn) = d.flatMap named := by
  induction d generalizing old with
  | nil => rfl
  | cons s d ih =>
    rw [List.flatMap_cons, List.map_append, List.flatMap_cons, ← ih none]
    exact h s _ (fun old => (ih old).trans (ih none).symm) old

theorem headerPaths_sections (d : Unified) (old : Option (List Char)) :
    headerPaths old ((d.flatMap FileSection.lines).map dropReturn) =
      d.flatMap fun s => s.target?.toList ++ s.seeming :=
  headerPaths_flatMap (fun _ _ hrest => headerPaths_headed _ _ _ hrest) d old

theorem mem_touchedFiles_render {d : Unified} {path : String} :
    path ∈ touchedFiles (render d) ↔
      ∃ s ∈ d, s.target? = some path.toList ∨ path.toList ∈ s.seeming := by
  rw [mem_touchedFiles, lines_render, headerPaths_sections, List.mem_flatMap]
  simp only [List.mem_append, Option.mem_toList]

theorem FileSection.seeming_eq_nil {s : FileSection}
    (h : ∀ b ∈ s.body, newMarker.isPrefixOf b.chars = false) : s.seeming = [] := by
  refine headerPaths_eq_nil ?_ none
  intro l hl
  obtain ⟨hunk, hh, hin⟩ := List.mem_flatMap.mp hl
  rcases List.mem_cons.mp hin with rfl | hbody
  · rfl
  · obtain ⟨b, hb, rfl⟩ := List.mem_map.mp hbody
    exact h b (List.mem_flatMap.mpr ⟨hunk, hh, hb⟩)

/-! ### What the gate sees of a section -/

/-- A section that turns the file `old` into the file `new`. -/
structure FileSection.Edits (s : FileSection) (old new : HeaderPath) : Prop where
  old_eq : s.oldHeader.chars = 'a' :: '/' :: old.chars
  new_eq : s.newHeader.chars = 'b' :: '/' :: new.chars

/-- Such a section is for the new file, whatever the old one is. -/
theorem FileSection.Edits.target?_eq {s : FileSection} {old new : HeaderPath}
    (h : s.Edits old new) : s.target? = some new.chars := by
  rw [target?, h.new_eq, headerPath?_path new (by decide) (by decide), Option.some_or]

/-- A path is seen if it is reported, if a section is for it or if a hunk seems to name it. -/
theorem HeaderPath.text_mem_effectiveFiles {p : Patch} {d : Unified} (hd : p.diff = render d)
    (path : HeaderPath) :
    path.text ∈ p.effectiveFiles ↔ path.text ∈ p.touchedFiles.map Patch.cleanPath ∨
      ∃ s ∈ d, s.target? = some path.chars ∨ path.chars ∈ s.seeming := by
  have hne : path.text ≠ "" := by
    rw [text, Ne, String.ofList_eq_empty_iff]
    exact path.ne_nil
  rw [Patch.mem_effectiveFiles, hd, mem_touchedFiles_render, and_iff_right hne, text,
    String.toList_ofList]

/-- The gate sees the new path of every section. It misses the old one exactly if that is not
reported and no section is for it, as long as no body line looks like a `+++` header. -/
theorem old_path_missed_iff (p : Patch) (d : Unified) (hd : p.diff = render d) (s : FileSection)
    (hs : s ∈ d) (old new : HeaderPath) (he : s.Edits old new) (policy : GatePolicy) :
    new.text ∈ p.effectiveFiles ∧
      (policy.forbiddenBy? new.text ≠ none → policy.check p ≠ .ok ()) ∧
      (old.text ∈ p.effectiveFiles → policy.forbiddenBy? old.text ≠ none →
        policy.check p ≠ .ok ()) ∧
      ((∀ b ∈ body d, newMarker.isPrefixOf b.chars = false) →
        (old.text ∉ p.effectiveFiles ↔ old.text ∉ p.touchedFiles.map Patch.cleanPath ∧
          ∀ t ∈ d, t.target? ≠ some old.chars)) := by
  have hnew : new.text ∈ p.effectiveFiles :=
    (new.text_mem_effectiveFiles hd).mpr (.inr ⟨s, hs, .inl he.target?_eq⟩)
  have hgate : ∀ path ∈ p.effectiveFiles, policy.forbiddenBy? path ≠ none →
      policy.check p ≠ .ok () := by
    intro path hpath hforbidden hok
    exact hforbidden ((GatePolicy.check_eq_ok_iff.mp hok).2.2 path hpath)
  refine ⟨hnew, hgate _ hnew, hgate _, ?_⟩
  intro hbody
  have hseeming : ∀ t ∈ d, t.seeming = [] := by
    intro t ht
    refine FileSection.seeming_eq_nil ?_
    intro b hb
    exact hbody b (List.mem_flatMap.mpr ⟨t, ht, hb⟩)
  rw [old.text_mem_effectiveFiles hd, not_or, not_exists]
  refine and_congr_right fun _ => forall_congr' fun t => ?_
  constructor
  · intro h ht htarget
    exact h ⟨ht, .inl htarget⟩
  · rintro h ⟨ht, htarget | hseems⟩
    · exact h ht htarget
    · rw [hseeming t ht] at hseems
      cases hseems

/-- A diff that turns the manifest of a package into a source file. -/
def manifestMoved : FileSection where
  oldHeader := ⟨"a/package.json".toList, by decide⟩
  newHeader := ⟨"b/src/main.ts".toList, by decide⟩
  hunks := [{
    range := ⟨"-1 +1 @@".toList, by decide⟩
    body := [⟨.removed, ⟨"one".toList, by decide⟩⟩, ⟨.added, ⟨"two".toList, by decide⟩⟩] }]

def manifestPath : HeaderPath where
  chars := "package.json".toList
  ne_nil := by decide
  no_tab := by decide
  one_line := by decide
  trimmed := by
    rintro c ⟨⟩
    rfl

def sourcePath : HeaderPath where
  chars := "src/main.ts".toList
  ne_nil := by decide
  no_tab := by decide
  one_line := by decide
  trimmed := by
    rintro c ⟨⟩
    rfl

/-- A policy that forbids sources refuses it for its new path, and no policy sees the old one. -/
theorem old_path_missed_manifest :
    (∀ b ∈ body [manifestMoved], newMarker.isPrefixOf b.chars = false) ∧
      "src/main.ts" ∈ (Patch.ofDiff (render [manifestMoved])).effectiveFiles ∧
      ({ forbiddenFragments := ["/src/"] } : GatePolicy).check
        (.ofDiff (render [manifestMoved])) ≠ .ok () ∧
      "package.json" ∉ (Patch.ofDiff (render [manifestMoved])).effectiveFiles := by
  obtain ⟨hnew, hgate, -, hold⟩ := old_path_missed_iff (.ofDiff (render [manifestMoved]))
    [manifestMoved] rfl manifestMoved List.mem_cons_self manifestPath sourcePath ⟨rfl, rfl⟩
    { forbiddenFragments := ["/src/"] }
  have hbody : ∀ b ∈ body [manifestMoved], newMarker.isPrefixOf b.chars = false := by decide
  have hmissed : manifestPath.text ∉
        (Patch.ofDiff (render [manifestMoved])).touchedFiles.map Patch.cleanPath ∧
      ∀ t ∈ [manifestMoved], t.target? ≠ some manifestPath.chars := by
    decide +kernel
  exact ⟨hbody, hnew, hgate (by decide +kernel), (hold hbody).mpr hmissed⟩

/-- So a forbidden file passes the gate under a new name. -/
theorem not_old_path_seen :
    ¬ ∀ (p : Patch) (d : Unified) (s : FileSection) (old new : HeaderPath) (policy : GatePolicy),
      p.diff = render d → s ∈ d → s.Edits old new →
        old.text ∈ p.effectiveFiles ∧
          (policy.forbiddenBy? old.text ≠ none → policy.check p ≠ .ok ()) := by
  intro h
  obtain ⟨-, hgate⟩ := h (.ofDiff (render [manifestMoved])) [manifestMoved] manifestMoved
    manifestPath sourcePath {} rfl List.mem_cons_self ⟨rfl, rfl⟩
  exact hgate (by decide +kernel) (by decide +kernel)

/-! ### Sections with any lines below their headers -/

/-- A hunk whose body may be any lines, marked or not. -/
structure LooseHunk where
  range : Line
  body : List Line

/-- One side of a section: a file, or none if there is none on this side. In the header a
timestamp may follow behind a tab. -/
structure Side where
  path? : Option HeaderPath
  stamp? : Option Line

/-- A section with a file on one side at least. -/
structure NamedSection where
  old : Side
  new : Side
  hunks : List LooseHunk
  names_file : (new.path?.or old.path?).isSome = true

/-- The new path of a section, or the old one if there is no new one. -/
def NamedSection.path (s : NamedSection) : HeaderPath :=
  (s.new.path?.or s.old.path?).get s.names_file

def LooseHunk.lines (h : LooseHunk) : List (List Char) :=
  (rangeMarker ++ h.range.chars) :: h.body.map Line.chars

/-- The name in a header, with the first component `top`. -/
def Side.name (side : Side) (top : Char) : List Char :=
  match side.path? with
  | some path => top :: '/' :: path.chars
  | none => "/dev/null".toList

def Side.header (side : Side) (top : Char) : List Char :=
  match side.stamp? with
  | some stamp => side.name top ++ '\t' :: stamp.chars
  | none => side.name top

def NamedSection.lines (s : NamedSection) : List (List Char) :=
  (oldMarker ++ s.old.header 'a') :: (newMarker ++ s.new.header 'b') ::
    s.hunks.flatMap LooseHunk.lines

/-- The text of such sections. -/
def renderNamed (d : List NamedSection) : String :=
  String.ofList (unlines (d.flatMap NamedSection.lines))

/-- A tab ends the name in a header. -/
theorem headerPath?_stamped {name : List Char} (h : '\t' ∉ name) (stamp : List Char) :
    headerPath? (name ++ '\t' :: stamp) = headerPath? name := by
  have hall : ∀ c ∈ name, (c != '\t') = true := by
    intro c hc
    rw [bne_iff_ne]
    rintro rfl
    exact h hc
  have hstamped : (name ++ '\t' :: stamp).takeWhile (· != '\t') = name := by
    rw [List.takeWhile_append_of_pos hall, List.takeWhile_cons_of_neg (by decide),
      List.append_nil]
  rw [headerPath?, headerPath?, hstamped, List.takeWhile_eq_self_iff.mpr hall]

section Side

variable {top : Char} (hblank : isBlank top = false) (hslash : top ≠ '/')
include hblank

theorem Side.not_mem_name (side : Side) {c : Char} (hc : isBlank c = true)
    (hpath : ∀ path, side.path? = some path → c ∉ path.chars) : c ∉ side.name top := by
  have hne : ∀ d, isBlank d = false → c ≠ d := by
    rintro d hd rfl
    cases hc.symm.trans hd
  unfold name
  split
  next path h => simp [hpath path h, hne top hblank, hne '/' (by decide)]
  next =>
    intro hmem
    have hall : ("/dev/null".toList.all fun d => !isBlank d) = true := by decide
    have hc' : isBlank c = false := by simpa using List.all_eq_true.mp hall c hmem
    exact hne c hc' rfl

theorem Side.newline_not_mem (side : Side) : '\n' ∉ side.header top := by
  have hname : '\n' ∉ side.name top :=
    side.not_mem_name hblank (by decide) fun path _ => path.one_line
  unfold header
  split
  next stamp _ => simp [hname, stamp.one_line]
  next => exact hname

include hslash

/-- The path of a side is read off its header. -/
theorem Side.headerPath?_header (side : Side) :
    headerPath? (side.header top) = side.path?.map HeaderPath.chars := by
  have htab : '\t' ∉ side.name top :=
    side.not_mem_name hblank (by decide) fun path _ => path.no_tab
  have hname : headerPath? (side.name top) = side.path?.map HeaderPath.chars := by
    unfold name
    split
    next path h => rw [headerPath?_path path hblank hslash, h, Option.map_some]
    next h =>
      rw [h]
      rfl
  unfold header
  split
  next stamp _ => rw [headerPath?_stamped htab, hname]
  next => exact hname

end Side

/-- The files that the hunks of a section seem to name. -/
def NamedSection.seeming (s : NamedSection) : List (List Char) :=
  headerPaths none ((s.hunks.flatMap LooseHunk.lines).map dropReturn)

theorem NamedSection.target_eq (s : NamedSection) :
    (headerPath? (s.new.header 'b')).or (headerPath? (s.old.header 'a')) = some s.path.chars := by
  rw [Side.headerPath?_header (by decide) (by decide), Side.headerPath?_header (by decide)
    (by decide), ← Option.map_or, path, ← Option.map_some, Option.some_get]

theorem LooseHunk.newline_not_mem {h : LooseHunk} {l : List Char} (hl : l ∈ h.lines) :
    '\n' ∉ l := by
  rcases List.mem_cons.mp hl with rfl | hl
  · simp [rangeMarker, h.range.one_line]
  · obtain ⟨b, -, rfl⟩ := List.mem_map.mp hl
    exact b.one_line

theorem NamedSection.newline_not_mem {s : NamedSection} {l : List Char} (hl : l ∈ s.lines) :
    '\n' ∉ l := by
  have hold : '\n' ∉ s.old.header 'a' := s.old.newline_not_mem (by decide)
  have hnew : '\n' ∉ s.new.header 'b' := s.new.newline_not_mem (by decide)
  rcases List.mem_cons.mp hl with rfl | hl
  · simp [oldMarker, hold]
  rcases List.mem_cons.mp hl with rfl | hl
  · simp [newMarker, hnew]
  · obtain ⟨h, -, hl⟩ := List.mem_flatMap.mp hl
    exact LooseHunk.newline_not_mem hl

theorem headerPaths_named (d : List NamedSection) :
    headerPaths none (Text.lines (renderNamed d).toList) =
      d.flatMap fun s => s.path.chars :: s.seeming := by
  have hlines : ∀ l ∈ d.flatMap NamedSection.lines, '\n' ∉ l := by
    intro l hl
    obtain ⟨s, -, hl⟩ := List.mem_flatMap.mp hl
    exact NamedSection.newline_not_mem hl
  rw [renderNamed, String.toList_ofList, lines_unlines hlines]
  refine headerPaths_flatMap ?_ d none
  intro s rest hrest old
  rw [NamedSection.lines, headerPaths_headed _ _ _ hrest, s.target_eq]
  rfl

/-- Only a body line that looks like a new header names a file. -/
theorem NamedSection.seeming_eq_nil {s : NamedSection}
    (h : ∀ hunk ∈ s.hunks, ∀ l ∈ hunk.body, ¬newMarker <+: l.chars) : s.seeming = [] := by
  refine headerPaths_eq_nil ?_ none
  intro l hl
  obtain ⟨hunk, hh, hin⟩ := List.mem_flatMap.mp hl
  rcases List.mem_cons.mp hin with rfl | hbody
  · rfl
  · obtain ⟨b, hb, rfl⟩ := List.mem_map.mp hbody
    rw [Bool.eq_false_iff, Ne, List.isPrefixOf_iff_prefix]
    exact h hunk hh b hb

theorem nodup_touchedFiles (diff : String) : (touchedFiles diff).Nodup := Patch.nodup_eraseDups _

/-- The path of every section is among the touched files, whatever stands in the hunks, and no
file is there twice. Unless a body line looks like a `+++` header, the touched files are these
paths, each in the place of its first section. -/
theorem touchedFiles_named (d : List NamedSection) :
    (∀ s ∈ d, s.path.text ∈ touchedFiles (renderNamed d)) ∧
      (touchedFiles (renderNamed d)).Nodup ∧
      ((∀ s ∈ d, ∀ hunk ∈ s.hunks, ∀ l ∈ hunk.body, ¬newMarker <+: l.chars) →
        touchedFiles (renderNamed d) = (d.map fun s => s.path.text).eraseDups) := by
  refine ⟨?_, nodup_touchedFiles _, ?_⟩
  · intro s hs
    rw [mem_touchedFiles, headerPaths_named, HeaderPath.text, String.toList_ofList]
    exact List.mem_flatMap.mpr ⟨s, hs, List.mem_cons_self⟩
  · intro hbody
    have hpaths : (d.flatMap fun s => s.path.chars :: s.seeming) = d.map fun s => s.path.chars := by
      rw [List.map_eq_flatMap]
      refine List.flatMap_congr ?_
      intro s hs
      rw [NamedSection.seeming_eq_nil (hbody s hs)]
    rw [touchedFiles, headerPaths_named, hpaths, List.map_map]
    rfl

/-- A manifest is deleted, with a line in it that looks like a header, and a source is added. -/
def manifestReplaced : List NamedSection := [{
    old := ⟨some manifestPath, some ⟨"2024-01-01 00:00:00".toList, by decide⟩⟩
    new := ⟨none, none⟩
    hunks := [{
      range := ⟨"-1,1 +0,0 @@".toList, by decide⟩
      body := [⟨"--- b/src/main.ts".toList, by decide⟩] }]
    names_file := rfl }, {
    old := ⟨none, none⟩
    new := ⟨some sourcePath, none⟩
    hunks := []
    names_file := rfl }]

theorem touchedFiles_named_replaced :
    (∀ s ∈ manifestReplaced, ∀ hunk ∈ s.hunks, ∀ l ∈ hunk.body, ¬newMarker <+: l.chars) ∧
      "package.json" ∈ touchedFiles (renderNamed manifestReplaced) ∧
      touchedFiles (renderNamed manifestReplaced) = ["package.json", "src/main.ts"] := by
  obtain ⟨hmem, -, heq⟩ := touchedFiles_named manifestReplaced
  have hbody : ∀ s ∈ manifestReplaced, ∀ hunk ∈ s.hunks, ∀ l ∈ hunk.body,
      ¬newMarker <+: l.chars := by
    decide
  have hpaths : (manifestReplaced.map fun s => s.path.text).eraseDups =
      ["package.json", "src/main.ts"] := by
    decide +kernel
  exact ⟨hbody, hmem _ List.mem_cons_self, (heq hbody).trans hpaths⟩

end PatchTrial.Diff
