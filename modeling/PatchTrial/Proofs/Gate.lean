import Mathlib.Data.List.Basic
import PatchTrial.Patch.Gate

/-!
# What the gate lets through

A patch passes the gate exactly if it keeps both limits and no file that it touches is forbidden.
The files are those that are reported and those in the headers of the diff.

So a patch that passes the gate passes every gate that asks no more, and it still does when less is
reported of it. Reported files only add to the files in the diff, so the list to be checked shrinks
with the report; it names each file once, so it gets no longer.
-/
namespace PatchTrial

theorem Patch.mem_effectiveFiles {p : Patch} {path : String} :
    path ∈ p.effectiveFiles ↔
      path ≠ "" ∧ (path ∈ p.touchedFiles.map cleanPath ∨ path ∈ Diff.touchedFiles p.diff) := by
  rw [effectiveFiles, List.mem_eraseDups, List.mem_filter, List.mem_append]
  simp [and_comm]

theorem Diff.mem_touchedFiles {diff path : String} :
    path ∈ touchedFiles diff ↔ path.toList ∈ headerPaths none (Text.lines diff.toList) := by
  rw [touchedFiles, List.mem_eraseDups, List.mem_map]
  constructor
  · rintro ⟨cs, hcs, rfl⟩
    rwa [String.toList_ofList]
  · intro h
    exact ⟨path.toList, h, String.ofList_toList⟩

namespace GatePolicy

variable {p : GatePolicy}

theorem forbiddenFile?_eq_none_iff {files : List String} :
    p.forbiddenFile? files = none ↔ ∀ f ∈ files, p.forbiddenBy? f = none := by
  simp [forbiddenFile?]

theorem check_eq_ok_iff {patch : Patch} :
    p.check patch = .ok () ↔ patch.effectiveFiles.length ≤ p.maxFiles.toNat ∧
      Diff.changedLines patch.diff ≤ p.maxLines.toNat ∧
      ∀ f ∈ patch.effectiveFiles, p.forbiddenBy? f = none := by
  rw [← forbiddenFile?_eq_none_iff]
  simp only [check]
  split
  next h => simp [Nat.not_le.mpr h]
  next hfiles =>
  split
  next h => simp [Nat.not_le.mpr h]
  next hlines =>
  split
  next v hv => simp [hv]
  next hv => simp [hv, Nat.not_lt.mp hfiles, Nat.not_lt.mp hlines]

end GatePolicy

/-! ### Asking less of less -/

namespace Patch

/-- A list of which each element is kept once repeats none. -/
theorem nodup_eraseDups (paths : List String) : paths.eraseDups.Nodup := by
  cases paths with
  | nil => exact List.nodup_nil
  | cons path rest =>
    rw [List.eraseDups_cons, List.nodup_cons, List.mem_eraseDups, List.mem_filter]
    refine ⟨?_, nodup_eraseDups _⟩
    rintro ⟨-, h⟩
    simp at h
termination_by paths.length
decreasing_by exact Nat.lt_succ_of_le (List.length_filter_le _ _)

theorem nodup_effectiveFiles (p : Patch) : p.effectiveFiles.Nodup := nodup_eraseDups _

/-- Of one diff, whoever reports fewer files touches fewer. -/
theorem effectiveFiles_subset {p q : Patch} (hd : p.diff = q.diff)
    (hr : p.touchedFiles ⊆ q.touchedFiles) : p.effectiveFiles ⊆ q.effectiveFiles := by
  intro path hp
  obtain ⟨hne, hreported | hdiff⟩ := mem_effectiveFiles.mp hp
  · exact mem_effectiveFiles.mpr ⟨hne, .inl (List.map_subset cleanPath hr hreported)⟩
  · exact mem_effectiveFiles.mpr ⟨hne, .inr (hd ▸ hdiff)⟩

theorem length_effectiveFiles_le {p q : Patch} (hd : p.diff = q.diff)
    (hr : p.touchedFiles ⊆ q.touchedFiles) :
    p.effectiveFiles.length ≤ q.effectiveFiles.length :=
  p.nodup_effectiveFiles.length_le_of_subset (effectiveFiles_subset hd hr)

end Patch

namespace GatePolicy

/-- `q` asks no more than `p`: its limits are no smaller and it forbids nothing else. -/
structure Relaxes (q p : GatePolicy) : Prop where
  maxFiles_le : p.maxFiles ≤ q.maxFiles
  maxLines_le : p.maxLines ≤ q.maxLines
  suffixes_subset : q.forbiddenSuffixes ⊆ p.forbiddenSuffixes
  fragments_subset : q.forbiddenFragments ⊆ p.forbiddenFragments

theorem Relaxes.refl (p : GatePolicy) : p.Relaxes p :=
  ⟨UInt64.le_refl _, UInt64.le_refl _, List.Subset.refl _, List.Subset.refl _⟩

theorem forbiddenBy?_eq_none_iff {p : GatePolicy} {path : String} :
    p.forbiddenBy? path = none ↔ (∀ s ∈ p.forbiddenSuffixes, endsIn s (normalize path) = false) ∧
      ∀ f ∈ p.forbiddenFragments,
        Text.occursIn (Text.asciiLower f.toList) (normalize path) = false := by
  unfold forbiddenBy?
  dsimp only
  split
  next s hs =>
    obtain ⟨hends, -⟩ := List.find?_eq_some_iff_append.mp hs
    refine iff_of_false (Option.some_ne_none s) ?_
    rintro ⟨h, -⟩
    exact Bool.false_ne_true ((h s (List.mem_of_find?_eq_some hs)).symm.trans hends)
  next hs =>
    simp only [List.find?_eq_none, Bool.not_eq_true] at hs ⊢
    exact (and_iff_right hs).symm

theorem Relaxes.forbiddenBy?_eq_none {p q : GatePolicy} (h : q.Relaxes p) {path : String}
    (hp : p.forbiddenBy? path = none) : q.forbiddenBy? path = none := by
  rw [forbiddenBy?_eq_none_iff] at hp ⊢
  exact ⟨fun s hs => hp.1 s (h.suffixes_subset hs), fun f hf => hp.2 f (h.fragments_subset hf)⟩

/-- A gate that asks no more lets through what another one lets through, of which it is told no
more. -/
theorem Relaxes.check_eq_ok {p q : GatePolicy} (h : q.Relaxes p) {less more : Patch}
    (hd : less.diff = more.diff) (hr : less.touchedFiles ⊆ more.touchedFiles)
    (hok : p.check more = .ok ()) : q.check less = .ok () := by
  obtain ⟨hfiles, hlines, hallowed⟩ := check_eq_ok_iff.mp hok
  refine check_eq_ok_iff.mpr ⟨?_, ?_, ?_⟩
  · calc less.effectiveFiles.length
      _ ≤ more.effectiveFiles.length := Patch.length_effectiveFiles_le hd hr
      _ ≤ p.maxFiles.toNat := hfiles
      _ ≤ q.maxFiles.toNat := h.maxFiles_le
  · calc Diff.changedLines less.diff
      _ = Diff.changedLines more.diff := by rw [hd]
      _ ≤ p.maxLines.toNat := hlines
      _ ≤ q.maxLines.toNat := h.maxLines_le
  · intro f hf
    exact h.forbiddenBy?_eq_none (hallowed f (Patch.effectiveFiles_subset hd hr hf))

/-- The gate is monotone: what passes under one policy passes under a looser one with fewer files
reported, whatever number of lines is reported. So no report gets a patch through that fails
without one. -/
theorem check_monotone (p q : GatePolicy) (h : q.Relaxes p) (diff : String)
    (fewer reported : List String) (hr : fewer ⊆ reported) (m n : UInt64) :
    (p.check ⟨diff, reported, m⟩ = .ok () → q.check ⟨diff, fewer, n⟩ = .ok ()) ∧
      (p.check ⟨diff, [], n⟩ ≠ .ok () → p.check ⟨diff, reported, m⟩ ≠ .ok ()) := by
  refine ⟨h.check_eq_ok rfl hr, ?_⟩
  intro hfails hok
  refine hfails ((Relaxes.refl p).check_eq_ok ?_ ?_ hok)
  · rfl
  · exact List.nil_subset reported

/-- A patch that reaches both limits, and patches with one line and one file too many and with a
path that is forbidden. The second policy lets the first three through. -/
theorem check_monotone_source :
    let p : GatePolicy := { maxFiles := 2, maxLines := 2 }
    let q : GatePolicy := { maxFiles := 3, maxLines := 3, forbiddenFragments := ["/test/"] }
    let diff := "--- a/src/main.ts\n+++ b/src/main.ts\n@@ -1 +1 @@\n-one\n+two\n"
    let long := "--- a/src/main.ts\n+++ b/src/main.ts\n@@ -1 +1,2 @@\n-one\n+two\n+three\n"
    let wide := "--- a/a.ts\n+++ b/a.ts\n--- a/b.ts\n+++ b/b.ts\n--- a/c.ts\n+++ b/c.ts\n"
    let moved := "--- a/test/main.ts\n+++ b/test/main.ts\n@@ -1 +1 @@\n-one\n+two\n"
    let reported := [" ./src/main.ts", "docs/notes.md"]
    q.Relaxes p ∧ ["docs/notes.md"] ⊆ reported ∧ p.check ⟨diff, reported, 9⟩ = .ok () ∧
      q.check ⟨diff, ["docs/notes.md"], 0⟩ = .ok () ∧
      (p.check ⟨long, [], 0⟩ = .error ⟨.maxLines, "3 lines changed, limit is 2"⟩ ∧
        p.check ⟨long, reported, 9⟩ ≠ .ok () ∧ q.check ⟨long, [], 0⟩ = .ok ()) ∧
      (p.check ⟨wide, [], 0⟩ = .error ⟨.maxFiles, "3 files touched, limit is 2"⟩ ∧
        p.check ⟨wide, ["a.ts"], 9⟩ ≠ .ok () ∧ q.check ⟨wide, [], 0⟩ = .ok ()) ∧
      p.check ⟨moved, [], 0⟩ =
          .error ⟨.forbiddenFile, "test/main.ts matches forbidden pattern '/test/'"⟩ ∧
        p.check ⟨moved, reported, 9⟩ ≠ .ok () := by
  intro p q diff long wide moved reported
  have hrel : q.Relaxes p := ⟨by decide, by decide, List.Subset.refl _, by decide⟩
  have hsub : ["docs/notes.md"] ⊆ reported := by decide
  have hok : p.check ⟨diff, reported, 9⟩ = .ok () := by decide +kernel
  have hless := (check_monotone p q hrel diff _ reported hsub 9 0).1 hok
  have hlong : p.check ⟨long, [], 0⟩ = .error ⟨.maxLines, "3 lines changed, limit is 2"⟩ := by
    decide +kernel
  have hwide : p.check ⟨wide, [], 0⟩ = .error ⟨.maxFiles, "3 files touched, limit is 2"⟩ := by
    decide +kernel
  have hmoved : p.check ⟨moved, [], 0⟩ =
      .error ⟨.forbiddenFile, "test/main.ts matches forbidden pattern '/test/'"⟩ := by
    decide +kernel
  have hfails (patch : String) (more : List String) {v : Violation}
      (h : p.check ⟨patch, [], 0⟩ = .error v) : p.check ⟨patch, more, 9⟩ ≠ .ok () :=
    (check_monotone p q hrel patch [] more (List.nil_subset more) 9 0).2 (by rw [h]; nofun)
  exact ⟨hrel, hsub, hok, hless, ⟨hlong, hfails _ _ hlong, by decide +kernel⟩,
    ⟨hwide, hfails _ _ hwide, by decide +kernel⟩, hmoved, hfails _ _ hmoved⟩

end GatePolicy

end PatchTrial
