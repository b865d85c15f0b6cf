import PatchTrial.Proofs.Treatments

/-!
# The normal form of a serialized command

A command is serialized by two scans, one that sets its `-j` options and one that sets its
`--parallel` options. Neither brings about an option of the other kind or hides one, so the two do
what a single scan does that knows both kinds. What it leaves is a normal form: each option is set
to one job, the rest is as it was, and serializing it again changes nothing.
-/
namespace PatchTrial.Parallel

open Text

/-! ### Texts without options -/

section Inert

variable {P : Bool → List Char → Prop} {new xs cs out : List Char} {start : Bool} {x second : Char}

theorem inert_singleton (h : x ≠ '-') : Inert second [x] := by
  simp [Inert, h]

/-- No `-j` option starts in a `--parallel` option. -/
theorem IsLevel.inert {old : List Char} (h : IsLevel old) : Inert 'j' old := by
  obtain ⟨rest, rfl, hne, hdash⟩ := options_level.start (show LevelAt true old from h)
  have hsecond : ¬['j'] <+: rest := by
    obtain ⟨gap, ds, heq, -, -⟩ := h
    obtain ⟨-, heq⟩ := List.cons.inj heq
    obtain ⟨-, rfl⟩ := List.cons.inj heq
    rintro ⟨rest', h⟩
    exact absurd (List.cons.inj h).1 (by decide)
  refine inert_cons.mpr ⟨by simp, inert_cons.mpr ⟨by simpa [hne] using hsecond, ?_⟩⟩
  intro t ht
  have hnot : '-' ∉ t := fun hmem => hdash (((List.mem_tails t rest).mp ht).subset hmem)
  constructor
  · rintro rfl
    exact hnot List.mem_cons_self
  · intro hp
    exact hnot (hp.subset List.mem_cons_self)

/-- A replacement leaves such a text in front, whatever comes behind it. -/
theorem Replaced.append_left (hP : Options P second) (hxs : Inert second xs)
    (h : Replaced P new start (xs ++ cs) out) :
    ∃ out', out = xs ++ out' ∧ Replaced P new (afterBlank start xs) cs out' := by
  induction xs generalizing start out with
  | nil => exact ⟨out, rfl, h⟩
  | cons x xs ih =>
    generalize hcs : x :: xs ++ cs = whole at h
    cases h with
    | nil => cases hcs
    | hit hold hends h =>
      obtain ⟨rest, rfl, -⟩ := hP.start hold
      exact absurd hcs (hxs.append_ne cs _)
    | miss hno h =>
      obtain ⟨rfl, rfl⟩ := List.cons.inj hcs
      obtain ⟨out', rfl, hout⟩ := ih hxs.tail h
      exact ⟨out', rfl, hout⟩

/-- What stands in front afterwards and is no option stood there before. -/
theorem Replaced.of_append_right (hnew : ['-', second] <+: new) (hxs : Inert second xs)
    (h : Replaced P new start cs (xs ++ out)) :
    ∃ cs', cs = xs ++ cs' ∧ Replaced P new (afterBlank start xs) cs' out := by
  induction xs generalizing start cs with
  | nil => exact ⟨cs, rfl, h⟩
  | cons x xs ih =>
    generalize hout : x :: xs ++ out = whole at h
    cases h with
    | nil => cases hout
    | hit hold hends h =>
      obtain ⟨new', rfl⟩ := hnew
      exact absurd hout (hxs.append_ne out _)
    | miss hno h =>
      obtain ⟨rfl, rfl⟩ := List.cons.inj hout
      obtain ⟨cs', rfl, hcs⟩ := ih hxs.tail h
      exact ⟨cs', rfl, hcs⟩

theorem Replaced.endsNumber_of (hP : Options P second) (h : Replaced P new start cs out)
    (hout : EndsNumber out) : EndsNumber cs := by
  rintro d cs' rfl
  by_cases hd : d = '-'
  · subst hd
    decide +kernel
  · have hsingle : Replaced P new start ([d] ++ cs') out := h
    obtain ⟨out', rfl, -⟩ := hsingle.append_left hP (inert_singleton hd)
    exact hout d out' rfl

end Inert

/-! ### One scan for both kinds -/

/-- In `out`, every option of either kind that a scan of `cs` from left to right comes upon is set
to one job, and every other character is the same. -/
inductive SetToOne : Bool → List Char → List Char → Prop
  | nil (start : Bool) : SetToOne start [] []
  | jobs {start : Bool} {old rest out : List Char} (hold : JobsAt start old)
      (hends : EndsNumber rest) (h : SetToOne false rest out) :
      SetToOne start (old ++ rest) ("-j1".toList ++ out)
  | level {start : Bool} {old rest out : List Char} (hold : LevelAt start old)
      (hends : EndsNumber rest) (h : SetToOne false rest out) :
      SetToOne start (old ++ rest) ("--parallel 1".toList ++ out)
  | kept {start : Bool} {c : Char} {cs out : List Char}
      (hno : ∀ old, JobsAt start old ∨ LevelAt start old → ¬old <+: c :: cs)
      (h : SetToOne (isBlank c) cs out) : SetToOne start (c :: cs) (c :: out)

section SetToOne

variable {start : Bool} {cs mid out : List Char}

/-- Where neither scan finds an option, the command has none: a `--parallel` option of it would
still be there for the second scan. -/
theorem Replaced.no_option {c : Char} (hjobs : Replaced JobsAt "-j1".toList (isBlank c) cs mid)
    (hnoJobs : ∀ old, JobsAt start old → ¬old <+: c :: cs)
    (hnoLevel : ∀ old, LevelAt start old → ¬old <+: c :: mid) :
    ∀ old, JobsAt start old ∨ LevelAt start old → ¬old <+: c :: cs := by
  rintro old (hold | hold) hp
  · exact hnoJobs old hold hp
  · obtain ⟨rest, hcs⟩ := hp
    have hwhole : Replaced JobsAt "-j1".toList start (old ++ rest) (c :: mid) :=
      hcs ▸ .miss hnoJobs hjobs
    obtain ⟨rest', hmid, -⟩ := hwhole.append_left options_jobs (IsLevel.inert hold)
    exact hnoLevel old hold ⟨rest', hmid.symm⟩

/-- Two scans, one for each kind, do what one scan does. The induction is on what is between them,
which each case shortens. -/
theorem Replaced.setToOne (hjobs : Replaced JobsAt "-j1".toList start cs mid)
    (hlevel : Replaced LevelAt "--parallel 1".toList start mid out) : SetToOne start cs out := by
  induction hlen : mid.length using Nat.strong_induction_on generalizing start cs mid out with
  | _ n ih =>
  cases hlevel with
  | nil =>
    cases hjobs with
    | nil => exact .nil start
  | @hit _ old rest out hold hends hlevel =>
    obtain ⟨cs', rfl, hrest⟩ := hjobs.of_append_right (List.prefix_append _ _) (IsLevel.inert hold)
    have hends' : EndsNumber cs' := hrest.endsNumber_of options_jobs hends
    rw [options_level.ends hold] at hrest
    have hlt : rest.length < n := by
      obtain ⟨tail, rfl, -⟩ := options_level.start hold
      rw [← hlen, List.length_append, List.length_cons]
      omega
    exact .level hold hends' (ih rest.length hlt hrest hlevel rfl)
  | @miss _ c mid out hnoLevel hlevel =>
    generalize hmid : c :: mid = whole at hjobs
    cases hjobs with
    | nil => cases hmid
    | @hit _ old rest mid' hold hends hjobs =>
      obtain ⟨rfl, rfl⟩ : c = '-' ∧ mid = "j1".toList ++ mid' := List.cons.inj hmid
      obtain ⟨out', rfl, hrest⟩ := hlevel.append_left options_level (by decide)
      have hlt : mid'.length < n := by
        rw [← hlen, List.length_cons, List.length_append]
        omega
      exact .jobs hold hends (ih mid'.length hlt hjobs hrest rfl)
    | @miss _ _ cs _ hnoJobs hjobs =>
      obtain ⟨rfl, rfl⟩ := List.cons.inj hmid
      have hlt : mid.length < n := by
        rw [← hlen]
        exact Nat.lt_succ_self _
      exact .kept (hjobs.no_option hnoJobs hnoLevel) (ih mid.length hlt hjobs hlevel rfl)

theorem serialized_setToOne (cmd : String) : SetToOne true cmd.toList (serialized cmd).toList := by
  rw [serialized, String.toList_ofList]
  exact (replaced_oneJob _).setToOne (replaced_oneLevel _)

end SetToOne

/-! ### The normal form -/

/-- Wherever an option stands in a text whose options are set, it is `new`. -/
theorem Settled.eq_new {P : Bool → List Char → Prop} {new before old rest : List Char}
    {start : Bool} {second : Char} (hP : Options P second)
    (h : Settled P new start (before ++ (old ++ rest))) (hold : P (afterBlank start before) old) :
    old = new := by
  have hrest := h.of_append
  obtain ⟨tail, rfl, -⟩ := hP.start hold
  exact hrest.1 _ hold (List.prefix_append _ _)

theorem command_serializeCpp {p : Plan} {s : Step} {cmd : String} (h : p.command s = some cmd) :
    (Remedy.serializeCpp p).command s = some (serialized cmd) := by
  have hslot := Remedy.singleJob_describes p s
  rw [Plan.slot, Plan.slot, h] at hslot
  exact congrArg Plan.Slot.command hslot

/-- The normal form that commands are brought to when a C++ build runs out of memory: every `-j`
option is `-j1`, every `--parallel` option is `--parallel 1`, all other characters are those of the
command, and it is its own normal form. -/
theorem serialized_normal (cmd : String) :
    (∀ p s, p.command s = some cmd →
      (Remedy.serializeCpp p).command s = some (serialized cmd)) ∧
      (∀ before old rest, (serialized cmd).toList = before ++ (old ++ rest) →
        (JobsAt (afterBlank true before) old → old = "-j1".toList) ∧
          (IsLevel old → old = "--parallel 1".toList)) ∧
      SetToOne true cmd.toList (serialized cmd).toList ∧
      serialized (serialized cmd) = serialized cmd := by
  obtain ⟨hjobs, hlevel⟩ := serialized_settled cmd
  refine ⟨fun p s => command_serializeCpp, ?_, serialized_setToOne cmd, serialized_serialized cmd⟩
  intro before old rest heq
  rw [heq] at hjobs hlevel
  constructor
  · intro hold
    exact hjobs.eq_new options_jobs hold
  · intro hold
    exact hlevel.eq_new options_level hold

/-- A plan whose build asks for eight jobs in one way and for four in another. -/
def eightJobs : Plan where
  attempt := 1
  mode := .strict
  commands := (PerStep.const none).set .build (some "make -j 8 && cmake --build out --parallel=4")
  env := .const none
  metadata := .null

theorem serialized_normal_eightJobs :
    eightJobs.command .build = some "make -j 8 && cmake --build out --parallel=4" ∧
      (Remedy.serializeCpp eightJobs).command .build =
        some "make -j1 && cmake --build out --parallel 1" ∧
      JobsAt (afterBlank true "make ".toList) "-j1".toList ∧
      ∀ old rest, "make -j1 && cmake --build out --parallel 1".toList =
          "make ".toList ++ (old ++ rest) →
        JobsAt (afterBlank true "make ".toList) old → old = "-j1".toList := by
  have hcmd : eightJobs.command .build = some "make -j 8 && cmake --build out --parallel=4" := by
    decide +kernel
  have hserialized : serialized "make -j 8 && cmake --build out --parallel=4" =
      "make -j1 && cmake --build out --parallel 1" := by
    decide +kernel
  obtain ⟨hbuild, hoptions, -, -⟩ :=
    serialized_normal "make -j 8 && cmake --build out --parallel=4"
  rw [hserialized] at hbuild hoptions
  refine ⟨hcmd, hbuild eightJobs .build hcmd, ?_, fun old rest heq => (hoptions _ old rest heq).1⟩
  have hone : IsNumber ['1'] := ⟨by decide, List.forall_mem_singleton.mpr (by decide +kernel)⟩
  exact ⟨by decide, [], ['1'], rfl, List.forall_mem_nil _, hone⟩

end PatchTrial.Parallel
