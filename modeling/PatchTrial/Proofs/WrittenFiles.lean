import PatchTrial.Files.Tree
import PatchTrial.Proofs.Text

/-!
# Reading what was written

A write leaves all directories and links as they are, so that every path leads to where it led
before. It changes one file, under all the names that this has. So what was written is there to be
read under its path, and it is still there after another file was written, unless that is the same
file under another name. In a tree without links each file has its own path.

Main statements: `exists_wrote`, `Holds.eq_of_wrote`, `Wrote.holds_iff` and `Holds.overwrite`;
`IsPlain.write` and `IsPlain.getLast?_of_follow`.
-/
namespace PatchTrial.FileTree

variable {t t' : FileTree} {here p q : Place} {e e' : Entry}

/-! ### Entries -/

/-- Whether a path goes on behind an entry. -/
def Entry.leadsOn : Entry → Bool
  | .directory => true
  | .link _ => true
  | _ => false

/-- Only files have several names. -/
theorem Entry.leadsOn_of_isNameOf (h : e.isNameOf e' = true) : e.leadsOn = false := by
  cases e with
  | directory => cases h
  | link target => cases h
  | file content mode number => rfl
  | device => rfl

theorem Entry.filter_leadsOn_some (h : e.leadsOn = false) :
    (some e).filter Entry.leadsOn = none := by
  rw [Option.filter_some, h, if_neg Bool.false_ne_true]

theorem lookup_map_entries (f : Place → Entry → Entry) (entries : List (Place × Entry)) :
    (entries.map fun x => (x.1, f x.1 x.2)).lookup p = (entries.lookup p).map (f p) := by
  induction entries with
  | nil => rfl
  | cons x entries ih =>
    rw [List.map_cons, List.lookup_cons, List.lookup_cons, ih]
    by_cases hx : p = x.1
    · rw [hx, beq_self_eq_true, Option.map_some]
    · rw [beq_false_of_ne hx]

theorem lookup_of_any_eq_false {entries : List (Place × Entry)}
    (h : entries.any (·.1 = p) = false) : entries.lookup p = none := by
  refine List.lookup_eq_none_iff.mpr fun x hx => bne_iff_ne.mpr ?_
  have hother := List.any_eq_false.mp h x hx
  rw [decide_eq_true_eq] at hother
  exact Ne.symm hother

theorem isSome_lookup_of_any {entries : List (Place × Entry)}
    (h : entries.any (·.1 = p) = true) : (entries.lookup p).isSome = true := by
  rw [Option.isSome_iff_ne_none]
  intro hnone
  obtain ⟨x, hx, hp⟩ := List.any_eq_true.mp h
  exact bne_iff_ne.mp (List.lookup_eq_none_iff.mp hnone x hx) (of_decide_eq_true hp).symm

/-- What is at a place after an entry was put at another. -/
theorem entry?_put (hp : p ≠ []) :
    entry? (t.put p e) q =
      if q = p then some e
      else (t.entry? q).map fun e' => if e'.isNameOf e then e else e' := by
  have hchanged : ∀ entries : List (Place × Entry),
      (entries.map fun x => if x.1 = p || x.2.isNameOf e then (x.1, e) else x).lookup q =
        (entries.lookup q).map fun e' => if q = p || e'.isNameOf e then e else e' := by
    intro entries
    rw [← lookup_map_entries fun q e' => if q = p || e'.isNameOf e then e else e']
    congr 2
    funext x
    split <;> rfl
  unfold entry?
  by_cases hroot : q.isEmpty
  · rw [List.isEmpty_iff.mp hroot, if_neg hp.symm]
    rfl
  rw [if_neg hroot, if_neg hroot, put]
  split
  next h =>
    rw [hchanged]
    split
    next hq =>
      subst hq
      obtain ⟨old, hold⟩ := Option.isSome_iff_exists.mp (isSome_lookup_of_any h)
      rw [hold, Option.map_some, decide_eq_true rfl, Bool.true_or, if_pos rfl]
    next hq => simp only [hq, decide_false, Bool.false_or]
  next h =>
    rw [Bool.not_eq_true] at h
    rw [List.lookup_append, hchanged]
    split
    next hq =>
      subst hq
      rw [lookup_of_any_eq_false h, Option.map_none, Option.none_or, List.lookup_cons,
        beq_self_eq_true]
    next hq =>
      rw [List.lookup_cons, beq_false_of_ne hq, List.lookup_nil, Option.or_none]
      simp only [hq, decide_false, Bool.false_or]

/-! ### Paths -/

/-- Whether two trees have the same directories and links. -/
def SameWays (t t' : FileTree) : Prop :=
  ∀ p, (t.entry? p).filter Entry.leadsOn = (t'.entry? p).filter Entry.leadsOn

theorem SameWays.symm (h : SameWays t t') : SameWays t' t := fun p => (h p).symm

theorem SameWays.entry? (h : SameWays t t') (he : e.leadsOn = true) (hp : t.entry? p = some e) :
    t'.entry? p = some e := by
  have hway := h p
  rw [hp, Option.filter_some_pos he] at hway
  exact (Option.filter_eq_some_iff.mp hway.symm).1

/-- A walk to an end takes only directories and links. -/
theorem SameWays.walkFrom (h : SameWays t t') {follows : Bool}
    {goOn goOn' : Place → List String → Except OsError Place}
    (hgo : ∀ here names q, goOn here names = .ok q → goOn' here names = .ok q) {names : List String}
    (hwalk : walkFrom t follows goOn here names = .ok q) :
    FileTree.walkFrom t' follows goOn' here names = .ok q := by
  induction names generalizing here with
  | nil => exact hwalk
  | cons c names ih =>
    rw [FileTree.walkFrom] at hwalk ⊢
    split at hwalk
    next hdot =>
      rw [if_pos hdot]
      exact ih hwalk
    next hdot =>
    rw [if_neg hdot]
    split at hwalk
    next hup =>
      rw [if_pos hup]
      exact ih hwalk
    next hup =>
    rw [if_neg hup]
    split at hwalk
    · cases hwalk
    next hshort =>
    rw [if_neg hshort]
    split at hwalk
    next hdirectory =>
      rw [h.entry? rfl hdirectory]
      exact ih hwalk
    next target hlink =>
      rw [h.entry? rfl hlink]
      dsimp only
      split at hwalk
      next hlast =>
        rw [if_pos hlast]
        exact hwalk
      next hlast =>
        rw [if_neg hlast]
        exact hgo _ _ _ hwalk
    next hdirectory hlink =>
      split
      next hdirectory' => exact absurd (h.symm.entry? rfl hdirectory') hdirectory
      next target hlink' => exact absurd (h.symm.entry? rfl hlink') (hlink target)
      next =>
        split at hwalk
        next hlast =>
          rw [if_pos hlast]
          exact hwalk
        next => cases hwalk

theorem SameWays.walk (h : SameWays t t') {follows : Bool} {links : Nat} {names : List String}
    (hwalk : t.walk follows links here names = .ok q) :
    t'.walk follows links here names = .ok q := by
  induction links generalizing here names q with
  | zero =>
    refine h.walkFrom (fun _ _ _ hgo => ?_) hwalk
    cases hgo
  | succ links ih => exact h.walkFrom (fun _ _ _ hgo => ih hgo) hwalk

/-- A path leads to the same place. -/
theorem SameWays.follow (h : SameWays t t') {path : String} (hfollow : t.follow here path = .ok q) :
    t'.follow here path = .ok q := by
  unfold FileTree.follow lead at hfollow ⊢
  split at hfollow
  · cases hfollow
  next hempty =>
  rw [if_neg hempty]
  split at hfollow
  · cases hfollow
  next hnul =>
  rw [if_neg hnul]
  split at hfollow
  · cases hfollow
  next hlong =>
  rw [if_neg hlong]
  exact h.walk hfollow

/-- A file that is put where no path goes on is in no one's way. -/
theorem sameWays_put (hp : p ≠ []) (hold : (t.entry? p).filter Entry.leadsOn = none)
    (he : e.leadsOn = false) : SameWays t (t.put p e) := by
  intro q
  rw [entry?_put hp]
  split
  next hq => rw [hq, hold, Entry.filter_leadsOn_some he]
  next =>
    cases t.entry? q with
    | none => rfl
    | some e' =>
      rw [Option.map_some]
      split
      next hname =>
        rw [Entry.filter_leadsOn_some he,
          Entry.filter_leadsOn_some (Entry.leadsOn_of_isNameOf hname)]
      next => rfl

/-! ### Files -/

/-- What a write to a place does: it leaves all ways and all numbers as they are, and all files but
one, which changes under all its names unless it is a device. -/
structure Wrote (user : User) (p : Place) (content : ByteArray) (t t' : FileTree) : Prop where
  ways : SameWays t t'
  numbers : ∀ q, t'.number? q = t.number? q
  others : ∀ q, t.isSameFile q p = false → t'.entry? q = t.entry? q
  names : ∀ q, t.isSameFile q p = true → t'.entry? q = t'.entry? p
  own : t'.entry? p = some .device ∨ ∃ mode, user.mayWrite mode = true ∧
    t'.entry? p = some (.file content mode (t.number? p))
  kept : ∀ old mode number, t.entry? p = some (.file old mode number) →
    t'.entry? p = some (.file content mode number)

variable {user : User} {path other : String} {content content' : ByteArray}

theorem isNameOf_file {mode : Nat} {number : Option Nat} :
    e.isNameOf (.file content mode number) =
      (e.number?.isSome && decide (e.number? = number)) := rfl

theorem number?_of_entry (h : t.entry? p = some e) : t.number? p = e.number? := by
  rw [number?, h, Option.bind_some]

theorem number?_of_entry_eq_none (h : t.entry? p = none) : t.number? p = none := by
  rw [number?, h, Option.bind_none]

theorem isSameFile_self (t : FileTree) (p : Place) : t.isSameFile p p = true := by
  rw [isSameFile, decide_eq_true rfl, Bool.true_or]

theorem number?_of_isSameFile (h : t.isSameFile q p = true) : t.number? q = t.number? p := by
  rw [isSameFile, Bool.or_eq_true, decide_eq_true_eq, Bool.and_eq_true, decide_eq_true_eq] at h
  rcases h with rfl | ⟨-, hnumber⟩
  · rfl
  · exact hnumber

theorem ne_nil_of_entry {found : Option Entry} (h : t.entry? p = found)
    (hne : found ≠ some .directory) : p ≠ [] := by
  rintro rfl
  exact hne h.symm

/-- A file that is put with the number of what was there is found under all names of it. -/
theorem entry?_put_file {mode : Nat} {number : Option Nat} (hp : p ≠ [])
    (hnumber : t.number? p = number) :
    entry? (t.put p (.file content mode number)) q =
      if t.isSameFile q p then some (.file content mode number) else t.entry? q := by
  rw [entry?_put hp, isSameFile, hnumber]
  by_cases hq : q = p
  · rw [if_pos hq, decide_eq_true hq, Bool.true_or, if_pos rfl]
  rw [if_neg hq, decide_eq_false hq, Bool.false_or]
  cases hentry : t.entry? q with
  | none =>
    rw [number?_of_entry_eq_none hentry]
    rfl
  | some e' =>
    rw [Option.map_some, isNameOf_file, number?_of_entry hentry]
    split <;> rfl

/-- Putting a file that keeps its number in the stead of one, or in that of nothing. -/
theorem wrote_put {mode : Nat} {number : Option Nat} (hp : p ≠ [])
    (hold : (t.entry? p).filter Entry.leadsOn = none) (hmode : user.mayWrite mode = true)
    (hnumber : t.number? p = number)
    (hkept : ∀ old mode' number', t.entry? p = some (.file old mode' number') → mode' = mode) :
    Wrote user p content t (t.put p (.file content mode number)) where
  ways := sameWays_put hp hold rfl
  numbers q := by
    have hput : entry? (t.put p (.file content mode number)) q = _ := entry?_put_file hp hnumber
    split at hput
    next hq =>
      rw [number?_of_entry hput, number?_of_isSameFile hq, hnumber]
      rfl
    next => rw [number?, number?, hput]
  others q hq := by rw [entry?_put_file hp hnumber, hq, if_neg Bool.false_ne_true]
  names q hq := by
    rw [entry?_put_file hp hnumber, entry?_put_file hp hnumber, hq, isSameFile_self, if_pos rfl,
      if_pos rfl]
  own := by
    rw [entry?_put_file hp hnumber, isSameFile_self, if_pos rfl, hnumber]
    exact .inr ⟨mode, hmode, rfl⟩
  kept old mode' number' hfile := by
    have hsame := number?_of_entry hfile
    rw [hnumber] at hsame
    rw [entry?_put_file hp hnumber, isSameFile_self, if_pos rfl, hkept old mode' number' hfile,
      hsame]
    rfl

theorem wrote_device (hdevice : t.entry? p = some .device) : Wrote user p content t t where
  ways _ := rfl
  numbers _ := rfl
  others _ _ := rfl
  names q hq := by
    have hnumber : t.number? p = none := number?_of_entry hdevice
    rw [isSameFile, hnumber, Bool.or_eq_true, decide_eq_true_eq, Bool.and_eq_true,
      decide_eq_true_eq] at hq
    rcases hq with rfl | ⟨hsome, hnone⟩
    · rfl
    · rw [hnone] at hsome
      cases hsome
  own := .inl hdevice
  kept old mode number hfile := by
    rw [hdevice] at hfile
    cases hfile

/-- What a write does, wherever its path leads. -/
theorem exists_wrote {mode : Nat} (hmode : user.mayWrite mode = true)
    (h : t.write here path content mode user = .ok t') :
    ∃ p, t.follow here path = .ok p ∧ Wrote user p content t t' := by
  unfold write at h
  split at h
  · split at h <;> cases h
  · cases h
  next p hfollow =>
  refine ⟨p, hfollow, ?_⟩
  split at h
  next hnone =>
    cases h
    exact wrote_put (ne_nil_of_entry hnone (by simp)) (by rw [hnone]; rfl) hmode
      (number?_of_entry_eq_none hnone) fun old mode' number' hfile => by
        rw [hnone] at hfile
        cases hfile
  · cases h
  next old mode' number hfile =>
    split at h
    next hmode' =>
      cases h
      exact wrote_put (ne_nil_of_entry hfile (by simp)) (by rw [hfile]; rfl) hmode'
        (number?_of_entry hfile) fun old' mode number' hfile' => by
          rw [hfile] at hfile'
          cases hfile'
          rfl
    next => cases h
  · cases h
  next hdevice =>
    cases h
    exact wrote_device hdevice

theorem Wrote.isSameFile (h : Wrote user p content t t') (q r : Place) :
    t'.isSameFile q r = t.isSameFile q r := by
  rw [FileTree.isSameFile, FileTree.isSameFile, h.numbers, h.numbers]

theorem isSameFile_comm (t : FileTree) (p q : Place) : t.isSameFile p q = t.isSameFile q p := by
  unfold isSameFile
  rw [decide_eq_decide.mpr (eq_comm : p = q ↔ q = p)]
  by_cases h : t.number? p = t.number? q
  · rw [h]
  · rw [decide_eq_false h, decide_eq_false (Ne.symm h), Bool.and_false, Bool.and_false]

/-- Whether a path leads to a file with a content that a user may read, which is at a place. -/
def Holds (t : FileTree) (user : User) (here : Place) (path : String) (p : Place)
    (content : ByteArray) : Prop :=
  t.follow here path = .ok p ∧
    ∃ mode number, t.entry? p = some (.file content mode number) ∧ user.mayRead mode = true

/-- The place of the file that a path leads to, if a user may read it. -/
def readable? (t : FileTree) (user : User) (here : Place) (path : String) : Option Place :=
  match t.follow here path with
  | .error _ => none
  | .ok p =>
    match t.entry? p with
    | some (.file _ mode _) => if user.mayRead mode then some p else none
    | _ => none

/-- Whether two paths lead to two files that a user may read. -/
def HoldsApart (t : FileTree) (user : User) (here : Place) (path other : String) : Prop :=
  ∃ p ∈ t.readable? user here path, ∃ q ∈ t.readable? user here other, t.isSameFile p q = false

instance : Decidable (t.HoldsApart user here path other) :=
  inferInstanceAs (Decidable (∃ p ∈ _, ∃ q ∈ _, _))

/-- A path leads to a file that a user may read if and only if the file has a content for them. -/
theorem readable?_eq_some_iff :
    t.readable? user here path = some p ↔ ∃ content, t.Holds user here path p content := by
  unfold readable? Holds
  cases hfollow : t.follow here path with
  | error e =>
    refine ⟨fun h => (nomatch h), ?_⟩
    rintro ⟨content, hp, -⟩
    cases hp
  | ok q =>
    dsimp only
    split
    next content mode number hfile =>
      constructor
      · intro h
        split at h
        next hmode =>
          cases h
          exact ⟨content, rfl, mode, number, hfile, hmode⟩
        next => cases h
      · rintro ⟨content', hp, mode', number', hfile', hmode⟩
        cases hp
        rw [hfile] at hfile'
        cases hfile'
        rw [if_pos hmode]
    next hother =>
      refine ⟨fun h => (nomatch h), ?_⟩
      rintro ⟨content, hp, mode, number, hfile, -⟩
      cases hp
      exact absurd hfile (hother content mode number)

theorem holdsApart_iff :
    t.HoldsApart user here path other ↔ ∃ p q, (∃ content, t.Holds user here path p content) ∧
      (∃ content, t.Holds user here other q content) ∧ t.isSameFile p q = false := by
  unfold HoldsApart
  simp only [Option.mem_def, readable?_eq_some_iff]
  constructor
  · rintro ⟨p, hp, q, hq, hother⟩
    exact ⟨p, q, hp, hq, hother⟩
  · rintro ⟨p, q, hp, hq, hother⟩
    exact ⟨p, hp, q, hq, hother⟩

theorem Holds.read (h : t.Holds user here path p content) :
    t.read here path user = .ok content := by
  obtain ⟨hfollow, mode, number, hentry, hmode⟩ := h
  simp only [FileTree.read, hfollow, bind, Except.bind, hentry, hmode, if_true]

theorem Holds.readText {text : String} (h : t.Holds user here path p text.toUTF8) :
    t.readText here path user = .ok text := by
  simp only [FileTree.readText, h.read, bind, Except.bind, Text.fromUTF8?_toUTF8]

/-- What is read is the content of a file, unless it is nothing. -/
theorem holds_of_read (hfollow : t.follow here path = .ok p)
    (h : t.read here path user = .ok content) :
    t.Holds user here path p content ∨ content = .empty := by
  rw [FileTree.read, hfollow] at h
  dsimp only [bind, Except.bind] at h
  split at h
  · cases h
  · cases h
  next content mode number hfile =>
    split at h
    next hmode =>
      cases h
      exact .inl ⟨hfollow, mode, number, hfile, hmode⟩
    next => cases h
  · cases h
  · cases h
    exact .inr rfl

theorem of_readText {text : String} (h : t.readText here path user = .ok text) :
    ∃ content, t.read here path user = .ok content ∧ String.fromUTF8? content = some text := by
  unfold readText at h
  cases hbytes : t.read here path user with
  | error e =>
    rw [hbytes] at h
    cases h
  | ok bytes =>
    rw [hbytes] at h
    dsimp only [bind, Except.bind] at h
    split at h
    next htext =>
      cases h
      exact ⟨bytes, rfl, htext⟩
    next => cases h

/-- A file that was written has what was written. -/
theorem Holds.eq_of_wrote (h : t'.Holds user here path p content')
    (hwrote : Wrote user p content t t') : content' = content := by
  obtain ⟨-, mode, number, hentry, -⟩ := h
  rcases hwrote.own with hdevice | ⟨mode', -, hfile⟩
  · rw [hentry] at hdevice
    cases hdevice
  · rw [hentry] at hfile
    cases hfile
    rfl

/-- A file is there before another one is written if and only if it is there afterwards. -/
theorem Wrote.holds_iff (h : Wrote user q content' t t') (hother : t.isSameFile p q = false) :
    t'.Holds user here path p content ↔ t.Holds user here path p content := by
  unfold Holds
  rw [h.others p hother]
  exact and_congr_left fun _ => ⟨h.ways.symm.follow, h.ways.follow⟩

/-- A file is there with its new content after it was written over. -/
theorem Holds.of_wrote (h : t.Holds user here path p content)
    (hwrote : Wrote user p content' t t') : t'.Holds user here path p content' := by
  obtain ⟨hfollow, mode, number, hentry, hmode⟩ := h
  exact ⟨hwrote.ways.follow hfollow, mode, number, hwrote.kept _ _ _ hentry, hmode⟩

/-- What a user has written can be written over. -/
theorem Holds.overwrite (h : t.Holds user here path p content)
    (hwritable : ∃ mode number, user.mayWrite mode = true ∧
      t.entry? p = some (.file content mode number)) (content' : ByteArray) :
    ∃ t', t.write here path content' plainMode user = .ok t' ∧ Wrote user p content' t t' := by
  obtain ⟨mode, number, hmode, hfile⟩ := hwritable
  have hwrite : t.write here path content' plainMode user =
      .ok (t.put p (.file content' mode number)) := by
    simp only [write, h.1, hfile, hmode, if_true]
  obtain ⟨q, hfollow, hwrote⟩ := exists_wrote (by cases user <;> rfl) hwrite
  rw [h.1] at hfollow
  cases hfollow
  exact ⟨_, hwrite, hwrote⟩

/-! ### Trees without links -/

/-- Whether a tree has only directories and files with one name each, all of which a user may
read. -/
def IsPlain (t : FileTree) (user : User) : Prop :=
  ∀ p e, t.entry? p = some e →
    e = .directory ∨ ∃ content mode, e = .file content mode ∧ user.mayRead mode = true

theorem isPlain_empty (user : User) : empty.IsPlain user := by
  intro p e hentry
  unfold entry? at hentry
  split at hentry
  · cases hentry
    exact .inl rfl
  · cases hentry

theorem IsPlain.number? (h : t.IsPlain user) (p : Place) : t.number? p = none := by
  cases hentry : t.entry? p with
  | none => exact number?_of_entry_eq_none hentry
  | some e =>
    rw [number?_of_entry hentry]
    obtain rfl | ⟨content, mode, rfl, -⟩ := h p e hentry <;> rfl

theorem IsPlain.isSameFile (h : t.IsPlain user) (p q : Place) :
    t.isSameFile p q = decide (p = q) := by
  rw [FileTree.isSameFile, h.number?, Option.isSome_none, Bool.false_and, Bool.or_false]

theorem IsPlain.put (h : t.IsPlain user) (hp : p ≠ [])
    (he : e = .directory ∨ ∃ content mode, e = .file content mode ∧ user.mayRead mode = true) :
    (t.put p e).IsPlain user := by
  intro q e' hentry
  rw [entry?_put hp] at hentry
  split at hentry
  · cases hentry
    exact he
  · obtain ⟨old, hold, rfl⟩ := Option.map_eq_some_iff.mp hentry
    have hother : old.isNameOf e = false := by
      rw [Entry.isNameOf, ← number?_of_entry hold, h.number?]
      rfl
    rw [hother, if_neg Bool.false_ne_true]
    exact h q old hold

theorem IsPlain.makeDirectory (h : t.IsPlain user)
    (hmake : t.makeDirectory here path = .ok t') : t'.IsPlain user := by
  unfold FileTree.makeDirectory at hmake
  cases hlocate : t.locate here (Path.withoutSlashes path) with
  | error e =>
    rw [hlocate] at hmake
    cases hmake
  | ok p =>
    rw [hlocate] at hmake
    dsimp only [bind, Except.bind] at hmake
    split at hmake
    · cases hmake
    next hnone =>
      cases hmake
      exact h.put (ne_nil_of_entry hnone (by simp)) (.inl rfl)

theorem IsPlain.ensureDirectory (h : t.IsPlain user) :
    (t.ensureDirectory here path).2.IsPlain user := by
  unfold FileTree.ensureDirectory
  cases hmake : t.makeDirectory here path with
  | ok t' => exact h.makeDirectory hmake
  | error e => exact h

theorem IsPlain.makeDirectories (h : t.IsPlain user) (fuel : Nat) (path : String) :
    (FileTree.makeDirectories here fuel t path).2.IsPlain user := by
  induction fuel generalizing t path with
  | zero => exact h
  | succ fuel ih =>
    rw [FileTree.makeDirectories]
    split
    · exact h
    split
    · exact h
    next up _ _ =>
      have hup := ih h up
      generalize FileTree.makeDirectories here fuel t up = made at hup ⊢
      rcases made with ⟨_ | e, made⟩
      · exact hup.ensureDirectory
      · exact hup
    next => exact h.ensureDirectory

theorem IsPlain.ne_link (h : t.IsPlain user) (p : Place) (target : String) :
    t.entry? p ≠ some (.link target) := by
  intro hlink
  obtain hdirectory | ⟨content, mode, hfile, -⟩ := h p _ hlink
  · cases hdirectory
  · cases hfile

/-- Without links, the last name of a path is that of its place. -/
theorem IsPlain.getLast?_of_walkFrom (h : t.IsPlain user)
    {goOn : Place → List String → Except OsError Place} {names : List String} {name : String}
    (hname : (name = "" || name = "." || name = "..") = false)
    (hlast : names.getLast? = some name) (hwalk : walkFrom t true goOn here names = .ok p) :
    p.getLast? = some name := by
  rw [Bool.or_eq_false_iff] at hname
  induction names generalizing here with
  | nil => cases hlast
  | cons c names ih =>
    -- at the last name there is no way but to its place; before it the walk goes on
    have hgo : names ≠ [] → names.getLast? = some name := by
      intro hnames
      rwa [List.getLast?_cons_of_ne_nil hnames] at hlast
    have hend : names = [] → c = name := by
      rintro rfl
      exact Option.some.inj hlast
    rw [walkFrom] at hwalk
    split at hwalk
    next hdot =>
      refine ih (hgo ?_) hwalk
      intro hnil
      rw [hend hnil, hname.1] at hdot
      cases hdot
    split at hwalk
    next hup =>
      refine ih (hgo ?_) hwalk
      intro hnil
      rw [hend hnil] at hup
      exact of_decide_eq_false hname.2 hup
    split at hwalk
    · cases hwalk
    split at hwalk
    next =>
      cases names with
      | nil =>
        cases hwalk
        rw [List.getLast?_concat, hend rfl]
      | cons d names => exact ih (hgo (List.cons_ne_nil _ _)) hwalk
    next target hlink => exact absurd hlink (h.ne_link _ target)
    next =>
      split at hwalk
      next hnil =>
        cases hwalk
        rw [List.getLast?_concat, hend (List.isEmpty_iff.mp hnil)]
      next => cases hwalk

theorem IsPlain.getLast?_of_follow (h : t.IsPlain user) {name : String}
    (hname : (name = "" || name = "." || name = "..") = false)
    (hlast : (Path.parts path).getLast? = some name) (hfollow : t.follow here path = .ok p) :
    p.getLast? = some name := by
  unfold follow lead at hfollow
  split at hfollow
  · cases hfollow
  split at hfollow
  · cases hfollow
  split at hfollow
  · cases hfollow
  exact h.getLast?_of_walkFrom hname hlast hfollow

/-- A file that is put where there is no directory. -/
theorem IsPlain.put_file {mode : Nat} (h : t.IsPlain user) (hne : t.entry? p ≠ some .directory)
    (hmode : user.mayRead mode = true) :
    (t.put p (.file content mode)).IsPlain user ∧ SameWays t (t.put p (.file content mode)) ∧
      entry? (t.put p (.file content mode)) p = some (.file content mode) := by
  have hp := ne_nil_of_entry rfl hne
  have hold : (t.entry? p).filter Entry.leadsOn = none := by
    cases hentry : t.entry? p with
    | none => rfl
    | some e =>
      obtain rfl | ⟨content, mode, rfl, -⟩ := h p e hentry
      · exact absurd hentry hne
      · rfl
  refine ⟨h.put hp (.inr ⟨content, mode, rfl, hmode⟩), sameWays_put hp hold rfl, ?_⟩
  rw [entry?_put hp, if_pos rfl]

theorem IsPlain.write {mode : Nat} (h : t.IsPlain user) (hmode : user.mayRead mode = true)
    (hwrite : t.write here path content mode user = .ok t') :
    t'.IsPlain user ∧ ∃ p, t.follow here path = .ok p ∧ SameWays t t' ∧
      ∃ mode', t'.entry? p = some (.file content mode') ∧ user.mayRead mode' = true := by
  unfold FileTree.write at hwrite
  split at hwrite
  · split at hwrite <;> cases hwrite
  · cases hwrite
  next p hfollow =>
  split at hwrite
  next hnone =>
    have hne : t.entry? p ≠ some .directory := by simp [hnone]
    cases hwrite
    obtain ⟨hplain, hways, hentry⟩ := h.put_file hne hmode
    exact ⟨hplain, p, hfollow, hways, mode, hentry, hmode⟩
  · cases hwrite
  next old mode' number hfile =>
    split at hwrite
    next =>
      cases hwrite
      have hne : t.entry? p ≠ some .directory := by simp [hfile]
      obtain hdirectory | ⟨old', mode'', hsame, hmode'⟩ := h p _ hfile
      · cases hdirectory
      · cases hsame
        obtain ⟨hplain, hways, hentry⟩ := h.put_file hne hmode'
        exact ⟨hplain, p, hfollow, hways, mode', hentry, hmode'⟩
    next => cases hwrite
  · cases hwrite
  next hdevice =>
    obtain hdirectory | ⟨old, mode', hfile, -⟩ := h p _ hdevice
    · cases hdirectory
    · cases hfile

/-! ### Names in a directory -/

/-- A name joined to a directory is the last part of the path. -/
theorem getLast?_parts_join {dir name : String} (hname : '/' ∉ name.toList) :
    (Path.parts (Path.join dir name)).getLast? = some name := by
  have hplain : ∀ c ∈ name.toList, (c == '/') = false := by
    intro c hc
    refine beq_false_of_ne ?_
    rintro rfl
    exact hname hc
  have hpart : (Text.pieces (· == '/') name.toList).getLast? = some name.toList := by
    rw [Text.pieces_eq_singleton hplain, List.getLast?_singleton]
  have hrelative : Path.isAbsolute name = false := by
    rw [Path.isAbsolute, Bool.eq_false_iff, ne_eq, String.startsWith_string_iff]
    exact fun hstart => hname (hstart.subset List.mem_cons_self)
  have hbehind : ∀ before, (Text.pieces (· == '/') (before ++ '/' :: name.toList)).getLast? =
      some name.toList := fun before => (Text.getLast?_pieces rfl before _).trans hpart
  have htext : (Text.pieces (· == '/') (Path.join dir name).toList).getLast? =
      some name.toList := by
    rw [Path.join, hrelative, Bool.false_or]
    split
    · exact hpart
    split
    next hslash =>
      obtain ⟨before, hbefore⟩ := String.Slice.endsWith_string_iff.mp hslash
      have hdir : dir.toList = before ++ ['/'] := by
        rw [String.copy_toSlice] at hbefore
        exact hbefore.symm
      rw [String.toList_append, hdir, List.append_assoc]
      exact hbehind before
    next =>
      rw [String.toList_append, String.toList_append, List.append_assoc]
      exact hbehind dir.toList
  rw [Path.parts, List.getLast?_map, htext, Option.map_some, String.ofList_toList]

end PatchTrial.FileTree
