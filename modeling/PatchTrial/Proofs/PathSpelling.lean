import Mathlib.Data.List.Find
import Mathlib.Data.List.Nodup
import PatchTrial.Proofs.StripLevel
import PatchTrial.Proofs.Words

/-!
# Paths in other spellings

The gate compares paths without regard to their spelling: it turns slashes into one direction and
letters into lower case, drops blanks and leading `./`, and puts a slash in front. What it compares
of a path is the end of what it compares of the same path in a directory.

The list of files knows no spelling. Reported names are cleaned before they are listed and names in
the diff are not, so a report that is read off the diff can name a file a second time.
-/
namespace PatchTrial

open Text

namespace Text

/-! ### Letters and blanks -/

theorem toNat_of_isUpper {c : Char} (h : c.isUpper = true) : 65 ≤ c.toNat ∧ c.toNat ≤ 90 :=
  (of_decide_eq_true h).imp UInt32.le_iff_toNat_le.mp UInt32.le_iff_toNat_le.mp

theorem isLower_iff {c : Char} : c.isLower = true ↔ 97 ≤ c.toNat ∧ c.toNat ≤ 122 :=
  (Bool.and_eq_true_iff.trans (and_congr decide_eq_true_iff decide_eq_true_iff)).trans
    (and_congr UInt32.le_iff_toNat_le UInt32.le_iff_toNat_le)

theorem isAlpha_of_isUpper {c : Char} (h : c.isUpper = true) : c.isAlpha = true :=
  Bool.or_eq_true_iff.mpr (.inl h)

theorem toNat_of_isAlpha {c : Char} (h : c.isAlpha = true) :
    (65 ≤ c.toNat ∧ c.toNat ≤ 90) ∨ (97 ≤ c.toNat ∧ c.toNat ≤ 122) :=
  (Bool.or_eq_true_iff.mp h).imp toNat_of_isUpper isLower_iff.mp

theorem not_isBlank_of_isAlpha {c : Char} (h : c.isAlpha = true) : isBlank c = false := by
  have hrange := toNat_of_isAlpha h
  simp only [isBlank, Bool.or_eq_false_iff, Bool.and_eq_false_iff, decide_eq_false_iff_not,
    beq_eq_false_iff_ne]
  omega

theorem toLower_of_not_isUpper {c : Char} (h : ¬c.isUpper = true) : c.toLower = c :=
  dif_neg fun hupper => h (decide_eq_true hupper)

theorem toNat_toLower {c : Char} (h : c.isUpper = true) : c.toLower.toNat = c.toNat + 32 := by
  have hrange := toNat_of_isUpper h
  have hval : c.toLower.val = c.val + 32 := congrArg Char.val (dif_pos (of_decide_eq_true h))
  change c.toLower.val.toNat = c.toNat + 32
  rw [hval, UInt32.toNat_add]
  change (c.toNat + 32) % 4294967296 = c.toNat + 32
  omega

theorem isLower_toLower {c : Char} (h : c.isUpper = true) : c.toLower.isLower = true := by
  have hrange := toNat_of_isUpper h
  rw [isLower_iff, toNat_toLower h]
  omega

theorem toLower_toLower (c : Char) : c.toLower.toLower = c.toLower := by
  by_cases h : c.isUpper = true
  · refine toLower_of_not_isUpper fun hupper => ?_
    have hrange := toNat_of_isUpper hupper
    have hlower := isLower_iff.mp (isLower_toLower h)
    omega
  · rw [toLower_of_not_isUpper h, toLower_of_not_isUpper h]

theorem isAlpha_toLower {c : Char} (h : c.isUpper = true) : c.toLower.isAlpha = true :=
  Bool.or_eq_true_iff.mpr (.inr (isLower_toLower h))

/-- Only a letter has another form in lower case. -/
theorem toLower_eq_iff {c d : Char} (hd : d.isAlpha = false) : c.toLower = d ↔ c = d := by
  by_cases hc : c.isUpper = true
  · constructor
    · rintro rfl
      cases (isAlpha_toLower hc).symm.trans hd
    · rintro rfl
      cases (isAlpha_of_isUpper hc).symm.trans hd
  · rw [toLower_of_not_isUpper hc]

theorem isBlank_toLower (c : Char) : isBlank c.toLower = isBlank c := by
  by_cases h : c.isUpper = true
  · rw [not_isBlank_of_isAlpha (isAlpha_of_isUpper h), not_isBlank_of_isAlpha (isAlpha_toLower h)]
  · rw [toLower_of_not_isUpper h]

end Text

namespace GatePolicy

/-! ### Comparison of paths -/

/-- A character as it is compared. -/
def folded (c : Char) : Char := (if c = '\\' then '/' else c).toLower

/-- A path with a slash in front. -/
def rooted (cs : List Char) : List Char := if cs.head? = some '/' then cs else '/' :: cs

theorem normalize_eq (path : String) :
    normalize path = rooted (dropDotSlash ((trim path.toList).map folded)) := by
  simp only [normalize, rooted, asciiLower, List.map_map]
  rfl

theorem isBlank_folded (c : Char) : isBlank (folded c) = isBlank c := by
  rw [folded, isBlank_toLower]
  split
  next h =>
    rw [h]
    rfl
  next => rfl

theorem toLower_folded (c : Char) : (folded c).toLower = folded c :=
  toLower_toLower _

theorem unpadded_map_folded_iff {cs : List Char} : Unpadded (cs.map folded) ↔ Unpadded cs := by
  constructor
  · intro h
    constructor
    · intro c hc
      rw [← isBlank_folded]
      exact h.head _ (by rw [List.head?_map, hc, Option.map_some])
    · intro c hc
      rw [← isBlank_folded]
      exact h.last _ (by rw [List.getLast?_map, hc, Option.map_some])
  · intro h
    constructor
    · intro c hc
      rw [List.head?_map, Option.map_eq_some_iff] at hc
      obtain ⟨d, hd, rfl⟩ := hc
      rw [isBlank_folded, h.head d hd]
    · intro c hc
      rw [List.getLast?_map, Option.map_eq_some_iff] at hc
      obtain ⟨d, hd, rfl⟩ := hc
      rw [isBlank_folded, h.last d hd]

/-! ### Other spellings -/

def IsSlash (c : Char) : Prop := c = '/' ∨ c = '\\'

/-- Two letters that differ in case only, two slashes, or the same character. -/
def Alike (c d : Char) : Prop := c.toLower = d.toLower ∨ IsSlash c ∧ IsSlash d

instance (c : Char) : Decidable (IsSlash c) := inferInstanceAs (Decidable (c = '/' ∨ c = '\\'))

instance (c d : Char) : Decidable (Alike c d) :=
  inferInstanceAs (Decidable (c.toLower = d.toLower ∨ IsSlash c ∧ IsSlash d))

theorem folded_of_isSlash {c : Char} (h : IsSlash c) : folded c = '/' := by
  rcases h with rfl | rfl <;> rfl

theorem Alike.folded_eq {c d : Char} (h : Alike c d) : folded c = folded d := by
  rcases h with h | ⟨hc, hd⟩
  · have hback : c = '\\' ↔ d = '\\' := by
      rw [← toLower_eq_iff (c := c) (by rfl), h, toLower_eq_iff (by rfl)]
    by_cases hd : d = '\\'
    · rw [hback.mpr hd, hd]
    · rw [folded, folded, if_neg hd, if_neg (mt hback.mp hd), h]
  · rw [folded_of_isSlash hc, folded_of_isSlash hd]

theorem folded_eq_iff {c d : Char} (hd : d.isAlpha = false) :
    folded c = d ↔ (if c = '\\' then '/' else c) = d :=
  toLower_eq_iff hd

theorem folded_eq_slash_iff {c : Char} : folded c = '/' ↔ IsSlash c := by
  rw [folded_eq_iff (by rfl), IsSlash]
  by_cases hc : c = '\\'
  · simp [hc]
  · simp [hc]

theorem folded_eq_dot_iff {c : Char} : folded c = '.' ↔ c = '.' := by
  rw [folded_eq_iff (by rfl)]
  by_cases hc : c = '\\'
  · simp [hc]
  · simp [hc]

theorem map_folded_of_alike {cs ds : List Char} (h : List.Forall₂ Alike cs ds) :
    ds.map folded = cs.map folded := by
  induction h with
  | nil => rfl
  | cons hcd _ ih => rw [List.map_cons, List.map_cons, hcd.folded_eq, ih]

/-- `./` any number of times, with slashes of either direction. -/
inductive Dots : List Char → Prop
  | nil : Dots []
  | cons {slash : Char} {dots : List Char} (hslash : IsSlash slash) (hdots : Dots dots) :
    Dots ('.' :: slash :: dots)

theorem Dots.unpadded {dots cs : List Char} (h : Dots dots) (hcs : Unpadded cs) :
    Unpadded (dots ++ cs) := by
  induction h with
  | nil => exact hcs
  | cons hslash hdots ih =>
    refine .cons (by decide) (.cons ?_ ih)
    rcases hslash with rfl | rfl <;> rfl

theorem Dots.dropDotSlash {dots : List Char} (h : Dots dots) (cs : List Char) :
    Text.dropDotSlash (dots.map folded ++ cs) = Text.dropDotSlash cs := by
  induction h with
  | nil => rfl
  | cons hslash hdots ih =>
    rw [List.map_cons, List.map_cons, folded_of_isSlash hslash]
    exact ih

/-- `other` spells `path` with letters in another case, slashes in the other direction, `./` in
front of it and blanks around it. -/
inductive Respells (other path : String) : Prop
  | intro (before dots body after : List Char)
    (heq : other.toList = before ++ (dots ++ body ++ after))
    (hbefore : ∀ b ∈ before, isBlank b = true) (hdots : Dots dots)
    (hbody : List.Forall₂ Alike path.toList body) (hafter : ∀ b ∈ after, isBlank b = true)

theorem normalize_respelled {path other : String} (hpath : Unpadded path.toList)
    (h : Respells other path) : normalize other = normalize path := by
  obtain ⟨before, dots, body, after, heq, hbefore, hdots, hbody, hafter⟩ := h
  have hfolded := map_folded_of_alike hbody
  have hunpadded : Unpadded (dots ++ body) := by
    refine hdots.unpadded (unpadded_map_folded_iff.mp ?_)
    rw [hfolded]
    exact unpadded_map_folded_iff.mpr hpath
  rw [normalize_eq, normalize_eq, heq, trim_blanks_append hbefore, trim_append_blanks hafter,
    hunpadded.trim_eq, hpath.trim_eq, List.map_append, hdots.dropDotSlash, hfolded]

/-! ### Leading slashes -/

theorem dropDotSlash_eq_self {cs : List Char} (h : ¬['.', '/'] <+: cs) : dropDotSlash cs = cs := by
  unfold dropDotSlash
  split
  next rest => exact absurd ⟨rest, rfl⟩ h
  next => rfl

/-- A path that starts with a name: with no slash, and with no dot before a slash. -/
structure StartsWithName (cs : List Char) : Prop where
  no_slash : ∀ c, cs.head? = some c → ¬IsSlash c
  no_dot : ∀ c rest, cs = '.' :: c :: rest → ¬IsSlash c

theorem normalize_of_startsWithName {path : String} (hpath : Unpadded path.toList)
    (h : StartsWithName path.toList) : normalize path = '/' :: path.toList.map folded := by
  have hdots : ¬['.', '/'] <+: path.toList.map folded := by
    rintro ⟨rest, heq⟩
    obtain ⟨c, cs, hpath, hc, hcs⟩ := List.map_eq_cons_iff.mp heq.symm
    obtain ⟨d, ds, rfl, hd, -⟩ := List.map_eq_cons_iff.mp hcs
    exact h.no_dot d ds (by rw [hpath, folded_eq_dot_iff.mp hc]) (folded_eq_slash_iff.mp hd)
  have hhead : (path.toList.map folded).head? ≠ some '/' := by
    rw [List.head?_map, Ne, Option.map_eq_some_iff]
    rintro ⟨c, hc, hfolded⟩
    exact h.no_slash c hc (folded_eq_slash_iff.mp hfolded)
  rw [normalize_eq, hpath.trim_eq, dropDotSlash_eq_self hdots, rooted, if_neg hhead]

theorem normalize_slash {path : String} (hpath : Unpadded path.toList)
    (h : StartsWithName path.toList) : normalize ("/" ++ path) = normalize path := by
  have htext : ("/" ++ path).toList = '/' :: path.toList := by rw [String.toList_append]; rfl
  have hdots : ¬['.', '/'] <+: '/' :: path.toList.map folded := by
    intro hp
    exact absurd (List.cons_prefix_cons.mp hp).1 (by decide)
  rw [normalize_of_startsWithName hpath h, normalize_eq, htext,
    (hpath.cons (by decide)).trim_eq, List.map_cons, folded_of_isSlash (.inl rfl),
    dropDotSlash_eq_self hdots, rooted, List.head?_cons, if_pos rfl]

/-! ### The last component -/

/-- What stands behind the last slash of a path. -/
def lastComponent (path : List Char) : List Char :=
  (pieces (· == '/') path).getLast (pieces_ne_nil _ _)

theorem lastComponent_append {before rest : List Char} (h : '/' ∉ rest) :
    lastComponent (before ++ '/' :: rest) = rest := by
  have hpiece : pieces (· == '/') rest = [rest] := by
    refine pieces_eq_singleton fun c hc => beq_false_of_ne ?_
    rintro rfl
    exact h hc
  have hlast := getLast?_pieces (p := (· == '/')) (beq_self_eq_true '/') before rest
  rw [hpiece, List.getLast?_singleton] at hlast
  exact List.getLast_of_getLast?_eq_some hlast

/-- A path with a slash is split at the last one. -/
theorem exists_last_slash {path : List Char} (h : '/' ∈ path) :
    ∃ before rest, path = before ++ '/' :: rest ∧ '/' ∉ rest := by
  obtain ⟨front, back, heq, hfront⟩ := List.eq_append_cons_of_mem (List.mem_reverse.mpr h)
  refine ⟨back.reverse, front.reverse, ?_, ?_⟩
  · rw [← List.reverse_reverse path, heq]
    simp
  · rwa [List.mem_reverse]

theorem suffix_iff_lastComponent {path name : List Char} (hpath : '/' ∈ path)
    (hname : '/' ∉ name) : '/' :: name <:+ path ↔ lastComponent path = name := by
  constructor
  · rintro ⟨before, rfl⟩
    exact lastComponent_append hname
  · rintro rfl
    obtain ⟨before, rest, rfl, hrest⟩ := exists_last_slash hpath
    rw [lastComponent_append hrest]
    exact List.suffix_append _ _

theorem slash_mem_normalize (path : String) : '/' ∈ normalize path := by
  rw [normalize_eq, rooted]
  split
  next h => exact List.mem_of_mem_head? h
  next => exact List.mem_cons_self

theorem dropDotSlash_suffix (cs : List Char) : dropDotSlash cs <:+ cs := by
  induction cs using dropDotSlash.induct with
  | case1 cs ih => exact ih.trans ((List.suffix_cons _ _).trans (List.suffix_cons _ _))
  | case2 cs h =>
    have hdots : ¬['.', '/'] <+: cs := by
      rintro ⟨rest, hrest⟩
      exact h rest hrest.symm
    exact ⟨[], dropDotSlash_eq_self hdots⟩

/-- A path is compared in lower case. -/
theorem toLower_of_mem_normalize {path : String} {c : Char} (h : c ∈ normalize path) :
    c.toLower = c := by
  have hcs : ∀ c ∈ dropDotSlash ((trim path.toList).map folded), c.toLower = c := by
    intro c hc
    obtain ⟨d, -, rfl⟩ := List.mem_map.mp ((dropDotSlash_suffix _).subset hc)
    exact toLower_folded d
  rw [normalize_eq, rooted] at h
  split at h
  · exact hcs c h
  · rcases List.mem_cons.mp h with rfl | h
    · rfl
    · exact hcs c h

theorem asciiLower_lastComponent (path : String) :
    asciiLower (lastComponent (normalize path)) = lastComponent (normalize path) := by
  obtain ⟨before, rest, heq, hrest⟩ := exists_last_slash (slash_mem_normalize path)
  have hlower : ∀ c ∈ rest, c.toLower = c := by
    intro c hc
    have hmem : c ∈ normalize path := by
      rw [heq]
      exact List.mem_append_right _ (List.mem_cons_of_mem _ hc)
    exact toLower_of_mem_normalize hmem
  rw [heq, lastComponent_append hrest, asciiLower, List.map_congr_left hlower, List.map_id']

/-- A name is matched by the whole last component of a path, in any case. -/
theorem endsIn_iff {name : String} (hname : '/' ∉ name.toList) (path : String) :
    endsIn name (normalize path) = true ↔
      asciiLower (lastComponent (normalize path)) = asciiLower name.toList := by
  have hlower : '/' ∉ asciiLower name.toList := by
    intro hmem
    obtain ⟨c, hc, hslash⟩ := List.mem_map.mp hmem
    rw [(toLower_eq_iff (by rfl)).mp hslash] at hc
    exact hname hc
  have hdrop : (asciiLower name.toList).dropWhile (· == '/') = asciiLower name.toList := by
    refine Diff.dropSlashes_eq_self_iff.mpr ?_
    intro hhead
    exact hlower (List.mem_of_mem_head? hhead)
  rw [endsIn, hdrop, List.isSuffixOf_iff_suffix,
    suffix_iff_lastComponent (slash_mem_normalize path) hlower, asciiLower_lastComponent]

/-- The policy with one more name that forbids. -/
def withName (p : GatePolicy) (name : String) : GatePolicy :=
  { p with forbiddenSuffixes := name :: p.forbiddenSuffixes }

/-- A name that comes first forbids what it matches and leaves the rest to the others. -/
theorem forbiddenBy?_withName (p : GatePolicy) (name path : String) :
    (p.withName name).forbiddenBy? path =
      if endsIn name (normalize path) = true then some name else p.forbiddenBy? path := by
  cases h : endsIn name (normalize path) with
  | true => simp [forbiddenBy?, withName, h]
  | false => simp [forbiddenBy?, withName, h]

/-! ### Directories -/

theorem rooted_dropDotSlash_suffix (cs : List Char) : rooted (dropDotSlash cs) <:+ '/' :: cs := by
  induction cs using dropDotSlash.induct with
  | case1 cs ih => exact ih.trans ((List.suffix_cons _ _).trans (List.suffix_cons _ _))
  | case2 cs h =>
    rw [dropDotSlash]
    · unfold rooted
      split
      · exact List.suffix_cons _ _
      · exact List.suffix_refl _
    · exact h

theorem suffix_rooted (cs : List Char) : cs <:+ rooted cs := by
  unfold rooted
  split
  · exact List.suffix_refl _
  · exact List.suffix_cons _ _

/-- In a directory, what is compared of a path stands at the end. -/
theorem rooted_dropDotSlash_append (dir cs : List Char) :
    rooted (dropDotSlash cs) <:+ rooted (dropDotSlash (dir ++ '/' :: cs)) := by
  induction dir using dropDotSlash.induct with
  | case1 dir ih => exact ih
  | case2 dir h =>
    by_cases hdots : ['.', '/'] <+: dir ++ '/' :: cs
    · -- the only such directory that does not itself start with `./` is the one named `.`
      have hdot : dir = ['.'] := by
        cases dir with
        | nil => exact absurd (List.cons_prefix_cons.mp hdots).1 (by decide)
        | cons c dir =>
          obtain ⟨rfl, hslash⟩ := List.cons_prefix_cons.mp hdots
          cases dir with
          | nil => rfl
          | cons d dir =>
            obtain ⟨rfl, -⟩ := List.cons_prefix_cons.mp hslash
            exact absurd rfl (h dir)
      rw [hdot]
      exact List.suffix_refl _
    · rw [dropDotSlash_eq_self hdots]
      exact (rooted_dropDotSlash_suffix cs).trans
        ((List.suffix_append _ _).trans (suffix_rooted _))

theorem normalize_suffix {path : String} (hpath : Unpadded path.toList) (dir : String) :
    normalize path <:+ normalize (dir ++ "/" ++ path) := by
  have htext : (dir ++ "/" ++ path).toList = dir.toList ++ '/' :: path.toList := by
    rw [String.toList_append, String.toList_append, List.append_assoc]
    rfl
  obtain ⟨dir', htrim⟩ := exists_trim_append (hpath.cons (c := '/') (by decide)) dir.toList
  rw [normalize_eq, normalize_eq, htext, htrim, hpath.trim_eq, List.map_append, List.map_cons,
    folded_of_isSlash (.inl rfl)]
  exact rooted_dropDotSlash_append _ _

theorem forbiddenBy?_of_suffix {policy : GatePolicy} {path longer : String}
    (h : normalize path <:+ normalize longer) (hforbidden : policy.forbiddenBy? path ≠ none) :
    policy.forbiddenBy? longer ≠ none := by
  intro hallowed
  obtain ⟨hsuffixes, hfragments⟩ := forbiddenBy?_eq_none_iff.mp hallowed
  refine hforbidden (forbiddenBy?_eq_none_iff.mpr ⟨?_, ?_⟩)
  · intro s hs
    refine Bool.eq_false_iff.mpr ?_
    intro hends
    have hlonger : endsIn s (normalize longer) = true :=
      List.isSuffixOf_iff_suffix.mpr ((List.isSuffixOf_iff_suffix.mp hends).trans h)
    cases (hsuffixes s hs).symm.trans hlonger
  · intro f hf
    refine Bool.eq_false_iff.mpr ?_
    intro hoccurs
    have hlonger := occursIn_iff.mpr ((occursIn_iff.mp hoccurs).trans h.isInfix)
    cases (hfragments f hf).symm.trans hlonger

/-! ### One answer for all spellings -/

theorem forbiddenBy?_congr (policy : GatePolicy) {path other : String}
    (h : normalize other = normalize path) :
    policy.forbiddenBy? other = policy.forbiddenBy? path := by
  simp only [forbiddenBy?, h]

/-- Whether a path is forbidden, and by what, does not hang on its spelling, nor on a slash in
front of it. A name without slashes forbids the paths whose last component it is, in any case, and
no others. What is forbidden is forbidden in every directory. -/
theorem forbiddenBy?_spelling (policy : GatePolicy) (path : String)
    (hpath : Unpadded path.toList) :
    (∀ other, Respells other path → policy.forbiddenBy? other = policy.forbiddenBy? path) ∧
      (StartsWithName path.toList →
        policy.forbiddenBy? ("/" ++ path) = policy.forbiddenBy? path) ∧
      (∀ name, '/' ∉ name.toList → (policy.withName name).forbiddenBy? path =
        if asciiLower (lastComponent (normalize path)) = asciiLower name.toList then some name
        else policy.forbiddenBy? path) ∧
      ∀ dir, policy.forbiddenBy? path ≠ none → policy.forbiddenBy? (dir ++ "/" ++ path) ≠ none := by
  refine ⟨?_, ?_, ?_, ?_⟩
  · intro other h
    exact policy.forbiddenBy?_congr (normalize_respelled hpath h)
  · intro h
    exact policy.forbiddenBy?_congr (normalize_slash hpath h)
  · intro name hname
    simp only [forbiddenBy?_withName, endsIn_iff hname]
  · intro dir
    exact forbiddenBy?_of_suffix (normalize_suffix hpath dir)

/-- A manifest in another spelling, behind a slash and in a directory. -/
theorem forbiddenBy?_spelling_manifest :
    let policy : GatePolicy := {}
    Respells " .\\./Web\\Package.JSON\n" "web/package.json" ∧
      policy.forbiddenBy? " .\\./Web\\Package.JSON\n" = some "package.json" ∧
      policy.forbiddenBy? "/web/package.json" = some "package.json" ∧
      (policy.withName "age.json").forbiddenBy? "web/package.json" = some "package.json" ∧
      policy.forbiddenBy? "apps/web/package.json" ≠ none := by
  intro policy
  have hpath : Unpadded "web/package.json".toList := by
    constructor
    · rintro c ⟨⟩
      rfl
    · rintro c ⟨⟩
      rfl
  have hbody : List.Forall₂ Alike "web/package.json".toList "Web\\Package.JSON".toList := by
    decide
  have hspelling : Respells " .\\./Web\\Package.JSON\n" "web/package.json" :=
    .intro [' '] ['.', '\\', '.', '/'] "Web\\Package.JSON".toList ['\n'] (by decide)
      (List.forall_mem_singleton.mpr rfl) (.cons (.inr rfl) (.cons (.inl rfl) .nil)) hbody
      (List.forall_mem_singleton.mpr rfl)
  have hname : StartsWithName "web/package.json".toList := by
    constructor
    · rintro c ⟨⟩
      rintro (h | h) <;> cases h
    · rintro c rest ⟨⟩
  have hforbidden : policy.forbiddenBy? "web/package.json" = some "package.json" := by
    decide +kernel
  obtain ⟨hrespelled, hslash, hnames, hdir⟩ := forbiddenBy?_spelling policy _ hpath
  refine ⟨hspelling, (hrespelled _ hspelling).trans hforbidden,
    (hslash hname).trans hforbidden, ?_, hdir "apps" (by simp [hforbidden])⟩
  rw [hnames "age.json" (by decide), if_neg (by decide +kernel), hforbidden]

end GatePolicy

/-! ### Reports that are read off the diff -/

namespace Diff

theorem ne_nil_of_mem_headerPaths {ls : List (List Char)} {old : Option (List Char)}
    (hold : old ≠ some []) : [] ∉ headerPaths old ls := by
  have hheader : ∀ header, headerPath? header ≠ some [] :=
    fun header h => headerPath?_ne_nil h rfl
  induction ls generalizing old with
  | nil => exact List.not_mem_nil
  | cons l ls ih =>
    rw [headerPaths]
    split
    · exact ih (hheader _)
    split
    next header _ =>
      rw [List.mem_append, Option.mem_toList, not_or]
      refine ⟨?_, ih (by simp)⟩
      cases hnew : headerPath? header with
      | none => exact hold
      | some path =>
        intro h
        exact hheader header (hnew.trans h)
    · exact ih hold

/-- A file that a diff touches has a name. -/
theorem ne_empty_of_mem_touchedFiles {diff path : String} (h : path ∈ touchedFiles diff) :
    path ≠ "" := by
  rintro rfl
  exact ne_nil_of_mem_headerPaths (by simp) (mem_touchedFiles.mp h)

end Diff

namespace Patch

theorem eraseDups_of_nodup {paths : List String} (h : paths.Nodup) : paths.eraseDups = paths := by
  induction paths with
  | nil => rfl
  | cons path rest ih =>
    obtain ⟨hpath, hrest⟩ := List.nodup_cons.mp h
    have hfilter : rest.filter (fun other => !other == path) = rest := by
      refine List.filter_eq_self.mpr ?_
      intro other hother
      simp only [Bool.not_eq_true', beq_eq_false_iff_ne]
      rintro rfl
      exact hpath hother
    rw [List.eraseDups_cons, hfilter, ih hrest]

/-- The files that are reported, as they are counted. -/
def reportedFiles (p : Patch) : List String :=
  ((p.touchedFiles.map cleanPath).filter (!·.isEmpty)).eraseDups

theorem removeAll_eq_filter (paths reported : List String) :
    paths.removeAll reported = paths.filter (· ∉ reported.eraseDups) := by
  refine List.filter_congr ?_
  intro path _
  simp [List.mem_eraseDups]

/-- Reported files come first, then those of the diff that are not reported. -/
theorem effectiveFiles_eq (p : Patch) : p.effectiveFiles =
    p.reportedFiles ++ (Diff.touchedFiles p.diff).filter (· ∉ p.reportedFiles) := by
  have hnamed : (Diff.touchedFiles p.diff).filter (!·.isEmpty) = Diff.touchedFiles p.diff := by
    refine List.filter_eq_self.mpr ?_
    intro path hpath
    simpa using Diff.ne_empty_of_mem_touchedFiles hpath
  have hnodup := (Diff.nodup_touchedFiles p.diff).filter (· ∉ p.reportedFiles)
  rw [effectiveFiles, List.filter_append, hnamed, List.eraseDups_append, removeAll_eq_filter,
    ← reportedFiles, eraseDups_of_nodup hnodup]

/-- The report adds nothing and moves nothing exactly if it starts the list of the diff. -/
theorem effectiveFiles_eq_iff (p : Patch) :
    p.effectiveFiles = Diff.touchedFiles p.diff ↔
      p.reportedFiles <+: Diff.touchedFiles p.diff := by
  rw [effectiveFiles_eq]
  constructor
  · intro h
    exact ⟨_, h⟩
  · rintro ⟨rest, hrest⟩
    have hnodup := Diff.nodup_touchedFiles p.diff
    rw [← hrest] at hnodup ⊢
    obtain ⟨-, -, hdisjoint⟩ := List.nodup_append.mp hnodup
    have hold : p.reportedFiles.filter (· ∉ p.reportedFiles) = [] := by
      simp
    have hnew : rest.filter (· ∉ p.reportedFiles) = rest := by
      refine List.filter_eq_self.mpr ?_
      intro path hpath
      simp only [decide_eq_true_eq]
      intro hreported
      exact hdisjoint path hreported path hpath rfl
    rw [List.filter_append, hold, hnew, List.nil_append]

/-- Names that a report adds that is read off the diff: those of its paths that are not in the
diff when they are cleaned. -/
def respelledFiles (diff : String) : List String :=
  (ofDiff diff).reportedFiles.filter (· ∉ Diff.touchedFiles diff)

theorem mem_effectiveFiles_ofDiff {diff path : String} :
    path ∈ (ofDiff diff).effectiveFiles ↔
      path ∈ Diff.touchedFiles diff ∨ path ∈ respelledFiles diff := by
  have hdiff : (ofDiff diff).diff = diff := rfl
  rw [effectiveFiles_eq, hdiff, respelledFiles]
  by_cases hpath : path ∈ Diff.touchedFiles diff
  · by_cases hreported : path ∈ (ofDiff diff).reportedFiles
    · simp [hpath, hreported]
    · simp [hpath, hreported]
  · simp [hpath]

theorem length_effectiveFiles_ofDiff (diff : String) :
    (ofDiff diff).effectiveFiles.length =
      (Diff.touchedFiles diff).length + (respelledFiles diff).length := by
  have hnodup : (Diff.touchedFiles diff ++ respelledFiles diff).Nodup := by
    refine List.nodup_append.mpr ⟨Diff.nodup_touchedFiles diff, ?_, ?_⟩
    · exact (nodup_eraseDups _).filter _
    · rintro path hpath _ hadded rfl
      simp [respelledFiles, hpath] at hadded
  have hperm : (ofDiff diff).effectiveFiles.Perm
      (Diff.touchedFiles diff ++ respelledFiles diff) := by
    refine (List.perm_ext_iff_of_nodup (nodup_effectiveFiles _) hnodup).mpr ?_
    intro path
    rw [mem_effectiveFiles_ofDiff, List.mem_append]
  rw [hperm.length_eq, List.length_append]

theorem effectiveFiles_unreported (diff : String) (n : UInt64) :
    (Patch.mk diff [] n).effectiveFiles = Diff.touchedFiles diff :=
  (effectiveFiles_eq_iff _).mpr List.nil_prefix

end Patch

namespace GatePolicy

theorem check_congr (policy : GatePolicy) {p q : Patch} (hd : p.diff = q.diff)
    (hf : p.effectiveFiles = q.effectiveFiles) : policy.check p = policy.check q := by
  simp only [check, hd, hf]

end GatePolicy

namespace Patch

/-- A report that is read off the diff changes the list of files exactly if its clean paths do not
start that list. The files that it adds are counted, so a patch passes with the report exactly if
it passes without one, there is room for these files, and none of them is forbidden. -/
theorem derived_report_differs_iff (diff : String) (n : UInt64) (policy : GatePolicy) :
    let plain : Patch := ⟨diff, [], n⟩
    plain.effectiveFiles = Diff.touchedFiles diff ∧
      ((ofDiff diff).effectiveFiles ≠ Diff.touchedFiles diff ↔
        ¬(ofDiff diff).reportedFiles <+: Diff.touchedFiles diff) ∧
      (∀ path, path ∈ (ofDiff diff).effectiveFiles ↔
        path ∈ Diff.touchedFiles diff ∨ path ∈ respelledFiles diff) ∧
      ((ofDiff diff).effectiveFiles = Diff.touchedFiles diff →
        policy.check (ofDiff diff) = policy.check plain) ∧
      (policy.check (ofDiff diff) = .ok () ↔ policy.check plain = .ok () ∧
        (Diff.touchedFiles diff).length + (respelledFiles diff).length ≤ policy.maxFiles.toNat ∧
          ∀ path ∈ respelledFiles diff, policy.forbiddenBy? path = none) := by
  intro plain
  have hplain : plain.effectiveFiles = Diff.touchedFiles diff := effectiveFiles_unreported diff n
  have hdiff : (ofDiff diff).diff = diff := rfl
  refine ⟨hplain, not_congr (effectiveFiles_eq_iff _), fun _ => mem_effectiveFiles_ofDiff, ?_, ?_⟩
  · intro h
    exact policy.check_congr rfl (h.trans hplain.symm)
  · rw [GatePolicy.check_eq_ok_iff, GatePolicy.check_eq_ok_iff, hplain,
      length_effectiveFiles_ofDiff, hdiff]
    simp only [mem_effectiveFiles_ofDiff, or_imp, forall_and]
    constructor
    · rintro ⟨hfiles, hlines, hold, hnew⟩
      exact ⟨⟨by omega, hlines, hold⟩, hfiles, hnew⟩
    · rintro ⟨⟨-, hlines, hold⟩, hfiles, hnew⟩
      exact ⟨hfiles, hlines, hold, hnew⟩

/-- A diff of a file that its headers name cleanly. -/
def cleanDiff : String := "--- a/src/app.ts\n+++ b/src/app.ts\n@@ -1 +1 @@\n-one\n+two\n"

theorem derived_report_differs_iff_clean :
    (ofDiff cleanDiff).effectiveFiles = Diff.touchedFiles cleanDiff ∧
      ∀ policy : GatePolicy, policy.check (ofDiff cleanDiff) = policy.check ⟨cleanDiff, [], 0⟩ := by
  have hfiles : (ofDiff cleanDiff).effectiveFiles = Diff.touchedFiles cleanDiff := by
    decide +kernel
  refine ⟨hfiles, fun policy => ?_⟩
  obtain ⟨-, -, -, hcheck, -⟩ := derived_report_differs_iff cleanDiff 0 policy
  exact hcheck hfiles

/-- A diff as it is made of two directories that are named with a dot. -/
def dottedDiff : String :=
  "--- a/./src/app.ts\n+++ b/./src/app.ts\n@@ -1 +1 @@\n-one\n+two\n"

theorem not_derived_report_alike :
    (¬ ∀ diff, (ofDiff diff).effectiveFiles = Diff.touchedFiles diff) ∧
      ¬ ∀ (diff : String) (policy : GatePolicy),
        policy.check (ofDiff diff) = policy.check ⟨diff, [], 0⟩ := by
  constructor
  · intro h
    exact absurd (h dottedDiff) (by decide +kernel)
  · intro h
    exact absurd (h dottedDiff { maxFiles := 1 }) (by decide +kernel)

end Patch
end PatchTrial
