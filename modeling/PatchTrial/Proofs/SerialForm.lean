import Mathlib.Data.List.Infix
import PatchTrial.Proofs.Parallelism
import PatchTrial.Proofs.Text

/-!
# Serialized commands are left alone

A replacement is told as a relation: options of some kind give way to a text, every other character
stays. What is put in starts with a dash, and an option has no dash behind its start, so no option
comes about that was not there before. So all options of a serialized command are set to one job,
and serializing it again changes nothing. A command without options is not changed either.
-/
namespace PatchTrial.Parallel

open Text

/-! ### Digits and blanks -/

theorem dash_not_mem_blanks {gap : List Char} (h : ∀ b ∈ gap, isBlank b = true) : '-' ∉ gap :=
  fun hmem => absurd (h '-' hmem) (by decide)

theorem IsNumber.dash_not_mem {ds : List Char} (h : IsNumber ds) : '-' ∉ ds :=
  fun hmem => absurd (h.digits '-' hmem) (by decide +kernel)

/-- Blanks before a number are just the blanks at the start. -/
theorem span_gap {gap ds : List Char} (hgap : ∀ b ∈ gap, isBlank b = true) (hds : IsNumber ds)
    (rest : List Char) :
    (gap ++ (ds ++ rest)).takeWhile isBlank = gap ∧
      (gap ++ (ds ++ rest)).dropWhile isBlank = ds ++ rest := by
  obtain ⟨d, ds', rfl⟩ := List.exists_cons_of_ne_nil hds.ne_nil
  have hd := not_isBlank_of_isDigit (hds.digits d List.mem_cons_self)
  rw [List.takeWhile_append_of_pos hgap, List.dropWhile_append_of_pos hgap, List.cons_append,
    List.takeWhile_cons, List.dropWhile_cons, hd]
  exact ⟨List.append_nil gap, rfl⟩

/-- Of the digits in front of `1` and a text that goes on without any, there is only the `1`. -/
theorem one_of_prefix {gap ds out : List Char} (hgap : ∀ b ∈ gap, isBlank b = true)
    (hds : IsNumber ds) (hout : EndsNumber out) (h : gap ++ ds <+: '1' :: out) :
    gap = [] ∧ ds = ['1'] := by
  cases gap with
  | cons b gap =>
    obtain ⟨rfl, -⟩ := List.cons_prefix_cons.mp h
    exact absurd (hgap '1' List.mem_cons_self) (by decide)
  | nil =>
    obtain ⟨d, ds', rfl⟩ := List.exists_cons_of_ne_nil hds.ne_nil
    obtain ⟨rfl, hrest⟩ := List.cons_prefix_cons.mp h
    cases ds' with
    | nil => exact ⟨rfl, rfl⟩
    | cons d' ds' =>
      obtain ⟨out', rfl⟩ := hrest
      have hd' := hds.digits d' (List.mem_cons_of_mem _ List.mem_cons_self)
      cases (hout d' _ rfl).symm.trans hd'

/-! ### Options that are found -/

theorem digitsLength?_isSome {before : Nat} {ds : List Char} (h : IsNumber ds)
    (rest : List Char) : (digitsLength? before (ds ++ rest)).isSome = true := by
  obtain ⟨d, ds', rfl⟩ := List.exists_cons_of_ne_nil h.ne_nil
  have hd := h.digits d List.mem_cons_self
  simp [digitsLength?, hd]

theorem afterStart?_append (start rest : List Char) :
    afterStart? start (start ++ rest) = some rest := by
  rw [afterStart?, if_pos (List.isPrefixOf_iff_prefix.mpr (List.prefix_append _ _)),
    List.drop_left]

theorem jobsLength?_isSome {old cs : List Char} (h : IsJobs old) (hp : old <+: cs) :
    (jobsLength? cs).isSome = true := by
  obtain ⟨gap, ds, rfl, hgap, hds⟩ := h
  obtain ⟨rest, rfl⟩ := hp
  obtain ⟨htake, hdrop⟩ := span_gap hgap hds rest
  rw [jobsLength?, List.append_assoc, List.append_assoc, afterStart?_append]
  simp only [Option.bind_eq_bind, Option.bind_some, htake, hdrop]
  exact digitsLength?_isSome hds rest

theorem levelLength?_isSome {old cs : List Char} (h : IsLevel old) (hp : old <+: cs) :
    (levelLength? cs).isSome = true := by
  obtain ⟨gap, ds, rfl, hgap, hds⟩ := h
  obtain ⟨rest, rfl⟩ := hp
  rw [levelLength?, List.append_assoc, List.append_assoc, afterStart?_append]
  simp only [Option.bind_eq_bind, Option.bind_some]
  rcases hgap with rfl | ⟨hne, hgap⟩
  · exact digitsLength?_isSome hds rest
  · obtain ⟨htake, hdrop⟩ := span_gap hgap hds rest
    split
    next rest' heq =>
      obtain ⟨b, gap', rfl⟩ := List.exists_cons_of_ne_nil hne
      rw [List.cons_append, List.cons.injEq] at heq
      obtain ⟨rfl, -⟩ := heq
      exact absurd (hgap '=' List.mem_cons_self) (by decide)
    next =>
      simp only [htake, hdrop]
      rw [if_neg (by simpa using hne)]
      exact digitsLength?_isSome hds rest

/-! ### Replacement -/

/-- Whether a blank stands before what follows a text; `start` is for the empty one. -/
def afterBlank (start : Bool) : List Char → Bool
  | [] => start
  | c :: cs => afterBlank (isBlank c) cs

theorem afterBlank_append (start : Bool) (xs ys : List Char) :
    afterBlank start (xs ++ ys) = afterBlank (afterBlank start xs) ys := by
  induction xs generalizing start with
  | nil => rfl
  | cons x xs ih => exact ih _

theorem IsNumber.afterBlank {ds : List Char} (h : IsNumber ds) (start : Bool) :
    afterBlank start ds = false := by
  obtain ⟨d, hd⟩ := List.getLast?_isSome.mpr h.ne_nil |> Option.isSome_iff_exists.mp
  obtain ⟨ds', rfl⟩ := List.getLast?_eq_some_iff.mp hd
  rw [afterBlank_append]
  exact not_isBlank_of_isDigit (h.digits d (by simp))

/-- A kind of options: they start with a dash and `second`, go on without a dash, and end with a
number. -/
structure Options (P : Bool → List Char → Prop) (second : Char) : Prop where
  start : ∀ {start old}, P start old →
    ∃ rest, old = '-' :: second :: rest ∧ rest ≠ [] ∧ '-' ∉ rest
  ends : ∀ {start old}, P start old → afterBlank start old = false

def JobsAt (start : Bool) (old : List Char) : Prop := start = true ∧ IsJobs old

def LevelAt (_ : Bool) (old : List Char) : Prop := IsLevel old

theorem options_jobs : Options JobsAt 'j' where
  start := by
    rintro start _ ⟨-, gap, ds, rfl, hgap, hds⟩
    refine ⟨gap ++ ds, rfl, List.append_ne_nil_of_right_ne_nil _ hds.ne_nil, ?_⟩
    rw [List.mem_append, not_or]
    exact ⟨dash_not_mem_blanks hgap, hds.dash_not_mem⟩
  ends := by
    rintro start _ ⟨-, gap, ds, rfl, -, hds⟩
    rw [← List.append_assoc, afterBlank_append, hds.afterBlank]

theorem options_level : Options LevelAt '-' where
  start := by
    rintro start _ ⟨gap, ds, rfl, hgap, hds⟩
    refine ⟨"parallel".toList ++ (gap ++ ds), rfl,
      List.append_ne_nil_of_left_ne_nil (by decide) _, ?_⟩
    have hdash : '-' ∉ gap := by
      rcases hgap with rfl | ⟨-, hgap⟩
      · decide
      · exact dash_not_mem_blanks hgap
    rw [List.mem_append, List.mem_append, not_or, not_or]
    exact ⟨by decide, hdash, hds.dash_not_mem⟩
  ends := by
    rintro start _ ⟨gap, ds, rfl, -, hds⟩
    rw [← List.append_assoc, afterBlank_append, hds.afterBlank]

/-- In `out`, every option that a scan of `cs` from left to right comes upon gave way to `new`, and
every other character is the same. -/
inductive Replaced (P : Bool → List Char → Prop) (new : List Char) :
    Bool → List Char → List Char → Prop
  | nil (start : Bool) : Replaced P new start [] []
  | hit {start : Bool} {old rest out : List Char} (hold : P start old) (hends : EndsNumber rest)
      (h : Replaced P new false rest out) : Replaced P new start (old ++ rest) (new ++ out)
  | miss {start : Bool} {c : Char} {cs out : List Char}
      (hno : ∀ old, P start old → ¬old <+: c :: cs) (h : Replaced P new (isBlank c) cs out) :
      Replaced P new start (c :: cs) (c :: out)

section Replaced

variable {P : Bool → List Char → Prop} {new : List Char} {start : Bool} {cs out : List Char}
  {second : Char}

theorem replaceMatches_append (find : Bool → List Char → Option Nat) (new : List Char)
    (start : Bool) (xs rest : List Char) :
    replaceMatches find new xs.length start (xs ++ rest) =
      replaceMatches find new 0 (afterBlank start xs) rest := by
  induction xs generalizing start with
  | nil => rfl
  | cons x xs ih => exact ih _

/-- The characters after an option are those that the replacement goes on with. -/
theorem replaced_replaceMatches {find : Bool → List Char → Option Nat} (hP : Options P second)
    (hsome : ∀ start cs n, find start cs = some n → ∃ old rest, cs = old ++ rest ∧
      n = old.length ∧ P start old ∧ EndsNumber rest)
    (hfinds : ∀ start old cs, P start old → old <+: cs → (find start cs).isSome = true)
    (start : Bool) (cs : List Char) :
    Replaced P new start cs (replaceMatches find new 0 start cs) := by
  induction hlen : cs.length using Nat.strong_induction_on generalizing start cs with
  | _ n ih =>
  cases cs with
  | nil => exact .nil start
  | cons c cs =>
    rw [replaceMatches]
    split
    next m hfind =>
      obtain ⟨old, rest, hcs, rfl, hold, hends⟩ := hsome _ _ _ hfind
      obtain ⟨tail, rfl, -⟩ := hP.start hold
      have hblank := hP.ends hold
      rw [List.cons_append, List.cons.injEq] at hcs
      obtain ⟨rfl, rfl⟩ := hcs
      rw [List.length_cons, Nat.add_sub_cancel, replaceMatches_append, ← List.cons_append]
      have hrest := ih rest.length (by rw [← hlen]; simp; omega) false rest rfl
      exact .hit hold hends (hblank ▸ hrest)
    next hfind =>
      refine .miss (fun old hold hp => ?_) (ih cs.length (by rw [← hlen]; simp) _ cs rfl)
      have hisSome := hfinds _ _ _ hold hp
      rw [hfind] at hisSome
      cases hisSome

/-- A text without dashes that stands in front afterwards stood there before. -/
theorem Replaced.of_prefix (h : Replaced P new start cs out) (hnew : new.head? = some '-')
    {pre : List Char} (hpre : '-' ∉ pre) (hp : pre <+: out) : pre <+: cs := by
  induction h generalizing pre with
  | nil => exact hp
  | hit hold hends h ih =>
    cases pre with
    | nil => exact List.nil_prefix
    | cons c pre =>
      obtain ⟨new', rfl⟩ := List.head?_eq_some_iff.mp hnew
      obtain ⟨rfl, -⟩ := List.cons_prefix_cons.mp hp
      exact absurd List.mem_cons_self hpre
  | miss hno h ih =>
    cases pre with
    | nil => exact List.nil_prefix
    | cons c pre =>
      obtain ⟨rfl, hrest⟩ := List.cons_prefix_cons.mp hp
      rw [List.mem_cons, not_or] at hpre
      exact List.cons_prefix_cons.mpr ⟨rfl, ih hpre.2 hrest⟩

/-- So no number is continued. -/
theorem Replaced.endsNumber (h : Replaced P new start cs out) (hnew : new.head? = some '-')
    (hcs : EndsNumber cs) : EndsNumber out := by
  rintro d out' rfl
  by_cases hd : d = '-'
  · subst hd
    decide +kernel
  · have hdash : '-' ∉ [d] := fun hmem => hd (List.mem_singleton.mp hmem).symm
    obtain ⟨cs', rfl⟩ := h.of_prefix hnew hdash ⟨out', rfl⟩
    exact hcs d cs' rfl

/-- A replacement of other than blanks leaves some character that is none. -/
theorem Replaced.exists_not_blank (h : Replaced P new start cs out) (hnew : new.head? = some '-')
    (hcs : ∃ c ∈ cs, isBlank c = false) : ∃ c ∈ out, isBlank c = false := by
  induction h with
  | nil => exact hcs
  | hit hold hends h ih =>
    obtain ⟨new', rfl⟩ := List.head?_eq_some_iff.mp hnew
    exact ⟨'-', List.mem_cons_self, by decide⟩
  | miss hno h ih =>
    simp only [List.mem_cons, exists_eq_or_imp] at hcs ⊢
    exact hcs.imp_right ih

/-! ### Options that are set -/

/-- Every option of a text is `new`. -/
def Settled (P : Bool → List Char → Prop) (new : List Char) : Bool → List Char → Prop
  | _, [] => True
  | start, c :: cs =>
    (∀ old, P start old → old <+: c :: cs → old = new) ∧ Settled P new (isBlank c) cs

theorem Settled.of_append {xs : List Char} (h : Settled P new start (xs ++ cs)) :
    Settled P new (afterBlank start xs) cs := by
  induction xs generalizing start with
  | nil => exact h
  | cons x xs ih => exact ih h.2

/-- No dash with `second` behind it starts in a text, whatever comes behind the text. -/
def Inert (second : Char) (xs : List Char) : Prop :=
  ∀ t ∈ xs.tails, t ≠ ['-'] ∧ ¬['-', second] <+: t

instance (second : Char) (xs : List Char) : Decidable (Inert second xs) :=
  inferInstanceAs (Decidable (∀ t ∈ xs.tails, t ≠ ['-'] ∧ ¬['-', second] <+: t))

theorem inert_cons {x : Char} {xs : List Char} :
    Inert second (x :: xs) ↔
      (x :: xs ≠ ['-'] ∧ ¬['-', second] <+: x :: xs) ∧ Inert second xs := by
  rw [Inert, List.tails_cons, List.forall_mem_cons]
  rfl

theorem Inert.tail {x : Char} {xs : List Char} (h : Inert second (x :: xs)) : Inert second xs :=
  (inert_cons.mp h).2

theorem Inert.append_ne {x : Char} {xs : List Char} (h : Inert second (x :: xs))
    (cs rest : List Char) : x :: xs ++ cs ≠ '-' :: second :: rest := by
  obtain ⟨⟨hne, hprefix⟩, -⟩ := inert_cons.mp h
  rintro heq
  obtain ⟨rfl, hrest⟩ := List.cons.inj heq
  cases xs with
  | nil => exact hne rfl
  | cons y xs =>
    obtain ⟨rfl, -⟩ := List.cons.inj hrest
    exact hprefix ⟨xs, rfl⟩

/-- No option starts in such a text. -/
theorem settled_append (hP : Options P second) (xs : List Char) (hxs : Inert second xs)
    (h : Settled P new (afterBlank start xs) out) : Settled P new start (xs ++ out) := by
  induction xs generalizing start with
  | nil => exact h
  | cons x xs ih =>
    refine ⟨fun old hold hp => ?_, ih hxs.tail h⟩
    obtain ⟨tail, rfl, -⟩ := hP.start hold
    obtain ⟨rest, heq⟩ := hp
    exact absurd heq.symm (hxs.append_ne out _)

/-- Where all options are set, a replacement finds only what it puts in. -/
theorem Settled.replaced_eq (hs : Settled P new start cs) (hP : Options P second)
    (h : Replaced P new start cs out) : out = cs := by
  induction h with
  | nil => rfl
  | @hit start old rest out hold hends h ih =>
    obtain ⟨tail, rfl, -⟩ := hP.start hold
    have hrest := hs.of_append
    rw [hP.ends hold] at hrest
    rw [ih hrest, hs.1 _ hold (List.prefix_append _ _)]
  | miss hno h ih => rw [ih hs.2]

end Replaced

/-! ### One job, one level -/

section Serialized

variable {start : Bool} {cs out : List Char}

/-- A `1` is the whole of a number that is put in. -/
theorem settled_one_job (hout : EndsNumber out) (h : Settled JobsAt "-j1".toList false out) :
    Settled JobsAt "-j1".toList start ("-j1".toList ++ out) := by
  refine ⟨fun old hold hp => ?_, settled_append options_jobs "j1".toList (by decide) h⟩
  obtain ⟨-, gap, ds, rfl, hgap, hds⟩ := hold
  have hnumber : gap ++ ds <+: '1' :: out :=
    (List.prefix_append_right_inj ['-', 'j']).mp hp
  obtain ⟨rfl, rfl⟩ := one_of_prefix hgap hds hout hnumber
  rfl

theorem settled_one_level (hout : EndsNumber out)
    (h : Settled LevelAt "--parallel 1".toList false out) :
    Settled LevelAt "--parallel 1".toList start ("--parallel 1".toList ++ out) := by
  refine ⟨fun old hold hp => ?_,
    settled_append options_level "-parallel 1".toList (by decide) h⟩
  obtain ⟨gap, ds, rfl, hgap, hds⟩ := hold
  have hnumber : gap ++ ds <+: ' ' :: '1' :: out :=
    (List.prefix_append_right_inj "--parallel".toList).mp hp
  rcases hgap with rfl | ⟨hne, hgap⟩
  · exact absurd (List.cons_prefix_cons.mp hnumber).1 (by decide)
  obtain ⟨b, gap, rfl⟩ := List.exists_cons_of_ne_nil hne
  obtain ⟨rfl, hone⟩ := List.cons_prefix_cons.mp hnumber
  rw [List.forall_mem_cons] at hgap
  obtain ⟨rfl, rfl⟩ := one_of_prefix hgap.2 hds hout hone
  rfl

theorem replaced_oneJob (cs : List Char) : Replaced JobsAt "-j1".toList true cs (oneJob cs) := by
  refine replaced_replaceMatches options_jobs (fun start cs n h => ?_)
    (fun start old cs hold hp => ?_) true cs
  · unfold jobsAt at h
    split at h
    next hstart =>
      obtain ⟨old, rest, hcs, hn, hjobs, hends⟩ := of_jobsLength? h
      exact ⟨old, rest, hcs, hn, ⟨hstart, hjobs⟩, hends⟩
    next => cases h
  · rw [jobsAt, if_pos hold.1]
    exact jobsLength?_isSome hold.2 hp

theorem replaced_oneLevel (cs : List Char) :
    Replaced LevelAt "--parallel 1".toList true cs (oneLevel cs) :=
  replaced_replaceMatches options_level (fun _ _ _ => of_levelLength?)
    (fun _ _ _ => levelLength?_isSome) true cs

/-- Behind its dash a `-j` option has none, so it is no newcomer. -/
theorem Replaced.jobs_of_prefix {start' : Bool} {c : Char} {old : List Char}
    (h : Replaced P new start cs out) (hnew : new.head? = some '-') (hold : JobsAt start' old)
    (hp : old <+: c :: out) : old <+: c :: cs := by
  obtain ⟨rest, rfl, -, hdash⟩ := options_jobs.start hold
  obtain ⟨rfl, hrest⟩ := List.cons_prefix_cons.mp hp
  refine List.cons_prefix_cons.mpr ⟨rfl, h.of_prefix hnew ?_ hrest⟩
  simpa using hdash

theorem Replaced.settled_jobs (h : Replaced JobsAt "-j1".toList start cs out) :
    Settled JobsAt "-j1".toList start out := by
  induction h with
  | nil => trivial
  | hit hold hends h ih => exact settled_one_job (h.endsNumber rfl hends) ih
  | miss hno h ih =>
    exact ⟨fun old hold hp => absurd (h.jobs_of_prefix rfl hold hp) (hno old hold), ih⟩

/-- Behind its two dashes a `--parallel` option has none, and the second of them is not the start
of another one. -/
theorem Replaced.settled_level (h : Replaced LevelAt "--parallel 1".toList start cs out) :
    Settled LevelAt "--parallel 1".toList start out := by
  induction h with
  | nil => trivial
  | hit hold hends h ih => exact settled_one_level (h.endsNumber rfl hends) ih
  | miss hno h ih =>
    refine ⟨fun old hold hp => absurd ?_ (hno old hold), ih⟩
    obtain ⟨rest, rfl, hne, hdash⟩ := options_level.start hold
    obtain ⟨rfl, hrest⟩ := List.cons_prefix_cons.mp hp
    obtain ⟨c, rest, rfl⟩ := List.exists_cons_of_ne_nil hne
    refine List.cons_prefix_cons.mpr ⟨rfl, ?_⟩
    cases h with
    | nil => exact hrest
    | hit hold hends h =>
      obtain ⟨-, hsecond⟩ := List.cons_prefix_cons.mp hrest
      obtain ⟨rfl, -⟩ := List.cons_prefix_cons.mp hsecond
      exact absurd List.mem_cons_self hdash
    | miss hno h =>
      obtain ⟨rfl, hsecond⟩ := List.cons_prefix_cons.mp hrest
      exact List.cons_prefix_cons.mpr ⟨rfl, h.of_prefix rfl hdash hsecond⟩

/-- Setting levels brings about no `-j` option. -/
theorem Replaced.settled_jobs_of_level (h : Replaced LevelAt "--parallel 1".toList start cs out)
    (hcs : Settled JobsAt "-j1".toList start cs) : Settled JobsAt "-j1".toList start out := by
  induction h with
  | nil => trivial
  | hit hold hends h ih =>
    have hrest := hcs.of_append
    rw [options_level.ends hold] at hrest
    exact settled_append options_jobs _ (by decide) (ih hrest)
  | miss hno h ih =>
    exact ⟨fun old hold hp => hcs.1 old hold (h.jobs_of_prefix rfl hold hp), ih hcs.2⟩

/-- All options of a serialized command are set to one job. -/
theorem serialized_settled (cmd : String) :
    Settled JobsAt "-j1".toList true (serialized cmd).toList ∧
      Settled LevelAt "--parallel 1".toList true (serialized cmd).toList := by
  have hlevel := replaced_oneLevel (oneJob cmd.toList)
  have htext : (serialized cmd).toList = oneLevel (oneJob cmd.toList) := String.toList_ofList
  rw [htext]
  exact ⟨hlevel.settled_jobs_of_level (replaced_oneJob _).settled_jobs, hlevel.settled_level⟩

theorem serialized_serialized (cmd : String) : serialized (serialized cmd) = serialized cmd := by
  obtain ⟨hjobs, hlevel⟩ := serialized_settled cmd
  have hjob := hjobs.replaced_eq options_jobs (replaced_oneJob _)
  have hone := hlevel.replaced_eq options_level (replaced_oneLevel _)
  rw [serialized, hjob, hone, String.ofList_toList]

/-! ### No options -/

/-- An option stands somewhere in a text. -/
def HasOption (P : Bool → List Char → Prop) (start : Bool) (cs : List Char) : Prop :=
  ∃ before old rest, cs = before ++ (old ++ rest) ∧ P (afterBlank start before) old

theorem settled_of_not_hasOption {P : Bool → List Char → Prop} {new : List Char}
    (h : ¬HasOption P start cs) : Settled P new start cs := by
  induction cs generalizing start with
  | nil => trivial
  | cons c cs ih =>
    refine ⟨fun old hold hp => ?_, ih ?_⟩
    · obtain ⟨rest, hcs⟩ := hp
      exact absurd ⟨[], old, rest, hcs.symm, hold⟩ h
    · rintro ⟨before, old, rest, rfl, hold⟩
      exact h ⟨c :: before, old, rest, rfl, hold⟩

/-- A command without options is left to the character. -/
theorem serialized_self {cmd : String} (hjobs : ¬HasOption JobsAt true cmd.toList)
    (hlevel : ¬HasOption LevelAt true cmd.toList) : serialized cmd = cmd := by
  have hjob := (settled_of_not_hasOption hjobs).replaced_eq options_jobs (replaced_oneJob _)
  have hone := (settled_of_not_hasOption hlevel).replaced_eq options_level (replaced_oneLevel _)
  rw [serialized, hjob, hone, String.ofList_toList]

end Serialized

end PatchTrial.Parallel
