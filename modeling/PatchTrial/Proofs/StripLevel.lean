import PatchTrial.PatchTool
import PatchTrial.Proofs.HeaderPaths

/-!
# The strip level of the tool

The tool is told how many components to strip from the names in a diff, and any number is a valid
setting. The reader of diffs strips one, or none where nothing would be left. So the gate checks
the file that the tool edits at one level only.
-/
namespace PatchTrial

open Text

namespace Diff

/-! ### Names and their components -/

/-- A name without its first component. Adjacent slashes count as one. -/
def withoutComponent? (name : List Char) : Option (List Char) :=
  (splitAt? '/' name).map fun (_, rest) => rest.dropWhile (· == '/')

/-- A name without its first `n` components, if it has more than `n`. -/
def withoutComponents? : Nat → List Char → Option (List Char)
  | 0, name => some name
  | n + 1, name => (withoutComponent? name).bind (withoutComponents? n)

theorem length_dropSlashes_le (cs : List Char) : (cs.dropWhile (· == '/')).length ≤ cs.length :=
  (List.dropWhile_suffix _).length_le

theorem dropSlashes_eq_self_iff {cs : List Char} :
    cs.dropWhile (· == '/') = cs ↔ cs.head? ≠ some '/' := by
  rw [List.dropWhile_eq_self_iff]
  cases cs <;> simp

theorem withoutComponent?_length {name rest : List Char}
    (h : withoutComponent? name = some rest) : rest.length < name.length := by
  obtain ⟨⟨first, behind⟩, hsplit, rfl⟩ := Option.map_eq_some_iff.mp h
  exact (length_dropSlashes_le behind).trans_lt (splitAt?_length hsplit)

/-- Each component that is stripped makes a name shorter. -/
theorem withoutComponents?_length {n : Nat} {name rest : List Char}
    (h : withoutComponents? n name = some rest) : rest.length + n ≤ name.length := by
  induction n generalizing name with
  | zero =>
    cases h
    exact Nat.le_refl _
  | succ n ih =>
    obtain ⟨between, hfirst, hmore⟩ := Option.bind_eq_some_iff.mp h
    have hlt := withoutComponent?_length hfirst
    have hle := ih hmore
    omega

/-- A name is left as it is only if no component is stripped. -/
theorem withoutComponents?_eq_self_iff {n : Nat} {name : List Char} :
    withoutComponents? n name = some name ↔ n = 0 := by
  constructor
  · intro h
    have hle := withoutComponents?_length h
    omega
  · rintro rfl
    rfl

/-- What stands behind the first slash is the name without one component, if it starts with no
further slash. -/
theorem withoutComponents?_eq_rest_iff {n : Nat} {name first rest : List Char}
    (hsplit : splitAt? '/' name = some (first, rest)) :
    withoutComponents? n name = some rest ↔ n = 1 ∧ rest.head? ≠ some '/' := by
  have hfirst : withoutComponent? name = some (rest.dropWhile (· == '/')) := by
    rw [withoutComponent?, hsplit, Option.map_some]
  rw [← dropSlashes_eq_self_iff]
  constructor
  · intro h
    cases n with
    | zero =>
      have hlt := splitAt?_length hsplit
      rw [Option.some.inj h] at hlt
      exact absurd hlt (Nat.lt_irrefl _)
    | succ n =>
      rw [withoutComponents?, hfirst, Option.bind_some] at h
      have hle := withoutComponents?_length h
      have hdrop := length_dropSlashes_le rest
      obtain rfl : n = 0 := by omega
      exact ⟨rfl, Option.some.inj h⟩
  · rintro ⟨rfl, h⟩
    rw [withoutComponents?, hfirst, Option.bind_some, withoutComponents?, h]

/-- The reader leaves a name whole, or takes what stands behind the first slash. -/
theorem dropComponent_cases (name : List Char) :
    dropComponent name = name ∨
      dropComponent name ≠ [] ∧ ∃ first, splitAt? '/' name = some (first, dropComponent name) := by
  unfold dropComponent
  split
  next first rest hsplit =>
    split
    · exact .inl rfl
    next hrest => exact .inr ⟨mt List.isEmpty_iff.mpr hrest, first, hsplit⟩
  next => exact .inl rfl

/-- Stripping and reading agree on a name that the reader leaves whole if nothing is stripped, and
on any other if one component is, which a single slash ends. -/
theorem withoutComponents?_eq_dropComponent_iff {n : Nat} {name : List Char} :
    withoutComponents? n name = some (dropComponent name) ↔
      (n = 0 ∧ dropComponent name = name) ∨
        (n = 1 ∧ dropComponent name ≠ name ∧ (dropComponent name).head? ≠ some '/') := by
  rcases dropComponent_cases name with hwhole | ⟨-, first, hsplit⟩
  · rw [hwhole, withoutComponents?_eq_self_iff]
    simp
  · have hcut : dropComponent name ≠ name := by
      intro h
      have hlt := splitAt?_length hsplit
      rw [h] at hlt
      exact Nat.lt_irrefl _ hlt
    rw [withoutComponents?_eq_rest_iff hsplit]
    simp [hcut]

/-- A path that is read off a header is the name in it, as the reader cuts it. -/
theorem headerPath?_eq_some {header path : List Char} (h : headerPath? header = some path) :
    headerName header ≠ [] ∧ dropComponent (headerName header) = path := by
  rw [headerPath?, ← headerName] at h
  split at h
  next => cases h
  next hname =>
    rw [Bool.or_eq_true, not_or, List.isEmpty_iff] at hname
    exact ⟨hname.1, Option.some.inj h⟩

theorem headerPath?_ne_nil {header path : List Char} (h : headerPath? header = some path) :
    path ≠ [] := by
  obtain ⟨hname, rfl⟩ := headerPath?_eq_some h
  rcases dropComponent_cases (headerName header) with hwhole | ⟨hne, -⟩
  · rwa [hwhole]
  · exact hne

/-- The header that the file of a section is read off, and the path. -/
inductive FileSection.ReadOff (s : FileSection) : (header path : List Char) → Prop
  | new {path : List Char} (h : headerPath? s.newHeader.chars = some path) :
    s.ReadOff s.newHeader.chars path
  | old {path : List Char} (hnew : headerPath? s.newHeader.chars = none)
    (hold : headerPath? s.oldHeader.chars = some path) : s.ReadOff s.oldHeader.chars path

namespace FileSection.ReadOff

variable {s : FileSection} {header path : List Char}

theorem headerPath?_eq (h : s.ReadOff header path) : headerPath? header = some path := by
  cases h with
  | new h => exact h
  | old _ hold => exact hold

theorem target?_eq (h : s.ReadOff header path) : s.target? = some path := by
  cases h with
  | new h => rw [target?, h, Option.some_or]
  | old hnew hold => rw [target?, hnew, hold, Option.none_or]

end FileSection.ReadOff

end Diff

/-! ### The tool -/

namespace PatchTool

/-- A tool that is called with these arguments edits the file `path` for a header that names
`name`: it strips the components that `-p` tells it to. -/
def Edits (args : List String) (name path : List Char) : Prop :=
  ∃ n : Nat, s!"-p{n}" ∈ args ∧ Diff.withoutComponents? n name = some path

theorem strip_chars (n : Nat) : (s!"-p{n}").toList = '-' :: 'p' :: Nat.toDigits 10 n := by
  simp [toString]

/-- No other argument of a call looks like `-p`. -/
theorem arguments_tail {c : ToolConfig} {d : PatchDirection} {dryRun : Bool} {a : String}
    (h : a ∈ (arguments c d dryRun).tail) : a.toList[1]? ≠ some 'p' := by
  have hall : ∀ a ∈ (arguments c d dryRun).tail, a.toList[1]? ≠ some 'p' := by
    cases d <;> cases dryRun <;> simp [arguments, toString]
  exact hall a h

/-- A call says how many components to strip, and says it once. -/
theorem strip_mem_arguments_iff {c : ToolConfig} {d : PatchDirection} {dryRun : Bool} {n : Nat} :
    s!"-p{n}" ∈ arguments c d dryRun ↔ n = c.strip.toNat := by
  constructor
  · intro h
    rcases List.mem_cons.mp h with heq | htail
    · have hchars := congrArg String.toList heq
      rw [strip_chars, strip_chars, List.cons_inj_right, List.cons_inj_right] at hchars
      rw [← @Nat.ofDigitChars_ten_toDigits n, hchars, Nat.ofDigitChars_ten_toDigits]
    · refine absurd ?_ (arguments_tail htail)
      rw [strip_chars]
      rfl
  · rintro rfl
    exact List.mem_append_left _ (List.mem_append_left _ List.mem_cons_self)

theorem edits_arguments_iff {c : ToolConfig} {d : PatchDirection} {dryRun : Bool}
    {name path : List Char} :
    Edits (arguments c d dryRun) name path ↔
      Diff.withoutComponents? c.strip.toNat name = some path := by
  simp only [Edits, strip_mem_arguments_iff, exists_eq_left]

end PatchTool

/-! ### The gate and the tool -/

/-- The configuration with another strip level. -/
def Config.withStrip (c : Config) (n : UInt32) : Config :=
  { c with patch := { c.patch with strip := n } }

namespace Diff

/-- Every strip level is valid. The gate checks the path that the reader cuts, whatever the level
is. The tool edits that path exactly at level zero if the name is left whole, and at level one if
it is not and a single slash ends its first component. -/
theorem checked_path_edited_iff (c : Config) (hc : c.validate = .ok ()) (n : UInt32) (p : Patch)
    (d : Unified) (hd : p.diff = render d) (s : FileSection) (hs : s ∈ d)
    (header path : List Char) (h : s.ReadOff header path) (direction : PatchDirection)
    (dryRun : Bool) :
    (c.withStrip n).validate = .ok () ∧ String.ofList path ∈ p.effectiveFiles ∧
      ((c.withStrip n).gate.forbiddenBy? (String.ofList path) ≠ none →
        (c.withStrip n).gate.check p ≠ .ok ()) ∧
      (PatchTool.Edits (PatchTool.arguments (c.withStrip n).patch direction dryRun)
          (headerName header) path ↔
        (n = 0 ∧ path = headerName header) ∨
          (n = 1 ∧ path ≠ headerName header ∧ path.head? ≠ some '/')) := by
  have hseen : String.ofList path ∈ p.effectiveFiles := by
    rw [Patch.mem_effectiveFiles, hd, mem_touchedFiles_render, String.toList_ofList]
    refine ⟨?_, .inr ⟨s, hs, .inl h.target?_eq⟩⟩
    rw [Ne, String.ofList_eq_empty_iff]
    exact headerPath?_ne_nil h.headerPath?_eq
  have hlevel : ∀ m : UInt32, n.toNat = m.toNat ↔ n = m := fun m => UInt32.toNat_inj
  obtain ⟨-, rfl⟩ := headerPath?_eq_some h.headerPath?_eq
  refine ⟨hc, hseen, ?_, ?_⟩
  · intro hforbidden hok
    exact hforbidden ((GatePolicy.check_eq_ok_iff.mp hok).2.2 _ hseen)
  · rw [PatchTool.edits_arguments_iff, withoutComponents?_eq_dropComponent_iff]
    exact or_congr (and_congr_left' (hlevel 0)) (and_congr_left' (hlevel 1))

/-- A diff without a prefix in front of its names, as for a tool that strips nothing. -/
def testEdited : FileSection where
  oldHeader := ⟨"tests/util.ts".toList, by decide⟩
  newHeader := ⟨"tests/util.ts".toList, by decide⟩
  hunks := [{
    range := ⟨"-1,1 +1,1 @@".toList, by decide⟩
    body := [⟨.removed, ⟨"old".toList, by decide⟩⟩, ⟨.added, ⟨"new".toList, by decide⟩⟩] }]

theorem testEdited_readOff : testEdited.ReadOff "tests/util.ts".toList "util.ts".toList :=
  .new (by decide)

/-- The path that is checked is not edited at level zero. -/
theorem checked_path_edited_test :
    ((default : Config).withStrip 0).validate = .ok () ∧
      "util.ts" ∈ (Patch.ofDiff (render [testEdited])).effectiveFiles ∧
      ¬ PatchTool.Edits (PatchTool.arguments ((default : Config).withStrip 0).patch .apply false)
        "tests/util.ts".toList "util.ts".toList := by
  obtain ⟨hvalid, hseen, -, hedits⟩ := checked_path_edited_iff default (by decide +kernel) 0
    (.ofDiff (render [testEdited])) [testEdited] rfl testEdited List.mem_cons_self
    "tests/util.ts".toList "util.ts".toList testEdited_readOff .apply false
  have hname : headerName "tests/util.ts".toList = "tests/util.ts".toList := by decide
  rw [hname] at hedits
  exact ⟨hvalid, hseen, mt hedits.mp (by decide)⟩

/-- So a forbidden file is edited and another one is checked in its place. -/
theorem not_edited_path_checked :
    ¬ ∀ (c : Config) (p : Patch) (d : Unified) (s : FileSection) (header path edited : List Char),
      c.validate = .ok () → p.diff = render d → s ∈ d → s.ReadOff header path →
        PatchTool.Edits (PatchTool.arguments c.patch .apply false) (headerName header) edited →
          path = edited ∧ (c.gate.forbiddenBy? (String.ofList edited) ≠ none →
            c.gate.check p ≠ .ok ()) := by
  intro h
  have hedits : PatchTool.Edits
      (PatchTool.arguments ((default : Config).withStrip 0).patch .apply false)
      (headerName "tests/util.ts".toList) "tests/util.ts".toList := by
    rw [PatchTool.edits_arguments_iff]
    decide
  obtain ⟨-, hgate⟩ := h ((default : Config).withStrip 0) (.ofDiff (render [testEdited]))
    [testEdited] testEdited _ _ _ (by decide +kernel) rfl List.mem_cons_self testEdited_readOff
    hedits
  exact hgate (by decide +kernel) (by decide +kernel)

end Diff

end PatchTrial
