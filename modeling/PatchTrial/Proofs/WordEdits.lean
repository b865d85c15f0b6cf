import PatchTrial.Proofs.Words

/-!
# Words that edits drop and replace

Dropping flags one after the other leaves the words that are none of them. Where a flag is dropped
with its value, the word behind it is dropped too. Two words that follow each other are replaced
wherever they stand, from left to right, and all other words stay.

Main statement: `Command.edits_by_words`, what each edit makes of a command as a list of words.
-/
namespace PatchTrial

open Text

namespace Command

variable {a b cmd flag t v : String} {flags flags' new ts out : List String}

/-! ### Commands without words -/

theorem words_eq_nil {cs : List Char} (h : words cs = []) : ∀ c ∈ cs, isBlank c = true := by
  induction cs with
  | nil => exact List.forall_mem_nil _
  | cons c cs ih =>
    by_cases hc : isBlank c = true
    · rw [words_cons_blank hc] at h
      exact List.forall_mem_cons.mpr ⟨hc, ih h⟩
    · obtain ⟨first, rest, hpieces⟩ := List.exists_cons_of_ne_nil (pieces_ne_nil isBlank cs)
      rw [words, pieces, if_neg hc, hpieces] at h
      cases h

theorem tokens_eq_nil_iff : tokens cmd = [] ↔ isBlankText cmd = true := by
  refine ⟨fun h => ?_, tokens_of_isBlankText⟩
  rw [tokens, List.map_eq_nil_iff] at h
  exact isBlankText_iff.mpr (words_eq_nil h)

/-! ### Flags -/

/-- Whether a word is one of some flags, alone or with `=` and a value. -/
def isAnyFlag (flags : List String) (t : String) : Bool := flags.any (isFlag · t)

/-- The words that are none of the flags. -/
def withoutFlags (flags ts : List String) : List String := ts.filter (!isAnyFlag flags ·)

theorem tokens_removeFlags (flags : List String) (cmd : String) :
    tokens (flags.foldl removeFlag cmd) = withoutFlags flags (tokens cmd) := by
  induction flags generalizing cmd with
  | nil => exact (List.filter_eq_self.mpr fun _ _ => rfl).symm
  | cons flag flags ih =>
    rw [List.foldl_cons, ih, tokens_removeFlag, withoutFlags, withoutFlags, List.filter_filter]
    refine List.filter_congr fun t _ => ?_
    rw [isAnyFlag, isAnyFlag, List.any_cons, Bool.not_or, Bool.and_comm]

theorem mem_withoutFlags : t ∈ withoutFlags flags ts ↔ t ∈ ts ∧ isAnyFlag flags t = false := by
  rw [withoutFlags, List.mem_filter, Bool.not_eq_true']

theorem withoutFlags_eq_nil_iff :
    withoutFlags flags ts = [] ↔ ∀ t ∈ ts, isAnyFlag flags t = true := by
  simp [withoutFlags]

theorem isFlag_of_mem_withoutFlags (h : t ∈ withoutFlags flags ts) (hflag : flag ∈ flags) :
    isFlag flag t = false := by
  have hnone := (mem_withoutFlags.mp h).2
  rw [isAnyFlag, List.any_eq_false] at hnone
  exact Bool.eq_false_iff.mpr (hnone flag hflag)

/-! ### Flags with values -/

/-- The words that stand behind a flag as its values. -/
def flagValues (flag : String) : List String → List String
  | t :: v :: rest => if t = flag then v :: flagValues flag rest else flagValues flag (v :: rest)
  | _ => []

/-- A flag starts with its name, whatever its value. -/
theorem prefix_of_isFlag (h : isFlag flag t = true) : flag.toList <+: t.toList := by
  rw [isFlag, Bool.or_eq_true, decide_eq_true_eq, List.isPrefixOf_iff_prefix] at h
  rcases h with rfl | h
  · exact List.prefix_rfl
  · exact (List.prefix_append _ _).trans h

theorem isFlag_self (flag : String) : isFlag flag flag = true := by
  rw [isFlag, decide_eq_true rfl, Bool.true_or]

theorem dropFlagValues_sublist (flag : String) (ts : List String) :
    (dropFlagValues flag ts).Sublist ts := by
  induction ts using dropFlagValues.induct flag with
  | case1 => exact List.Sublist.slnil
  | case2 t h =>
    rw [dropFlagValues, if_pos h]
    exact List.nil_sublist _
  | case3 t h =>
    rw [dropFlagValues, if_neg h]
  | case4 v rest ih =>
    rw [dropFlagValues, if_pos rfl]
    exact (ih.cons v).cons flag
  | case5 t v rest hne h ih =>
    rw [dropFlagValues, if_neg hne, if_pos h]
    exact ih.cons t
  | case6 t v rest hne h ih =>
    rw [dropFlagValues, if_neg hne, if_neg h]
    exact ih.cons_cons t

theorem isFlag_of_mem_dropFlagValues (h : t ∈ dropFlagValues flag ts) : isFlag flag t = false := by
  induction ts using dropFlagValues.induct flag with
  | case1 => cases h
  | case2 t' h' =>
    rw [dropFlagValues, if_pos h'] at h
    cases h
  | case3 t' h' =>
    rw [dropFlagValues, if_neg h', List.mem_singleton] at h
    exact h ▸ Bool.eq_false_iff.mpr h'
  | case4 v rest ih =>
    rw [dropFlagValues, if_pos rfl] at h
    exact ih h
  | case5 t' v rest hne h' ih =>
    rw [dropFlagValues, if_neg hne, if_pos h'] at h
    exact ih h
  | case6 t' v rest hne h' ih =>
    rw [dropFlagValues, if_neg hne, if_neg h'] at h
    rcases List.mem_cons.mp h with rfl | h
    · exact Bool.eq_false_iff.mpr h'
    · exact ih h

theorem flagValues_sublist (flag : String) (ts : List String) :
    (flagValues flag ts).Sublist ts := by
  induction ts using flagValues.induct flag with
  | case1 v rest ih =>
    rw [flagValues, if_pos rfl]
    exact (ih.cons_cons v).cons flag
  | case2 t v rest hne ih =>
    rw [flagValues, if_neg hne]
    exact ih.cons t
  | case3 ts hts =>
    rw [flagValues]
    · exact List.nil_sublist _
    · exact hts

/-- Of the words that satisfy `keep`, which no flag does, the values are all that goes beyond the
flags. -/
theorem length_filter_dropFlagValues {keep : String → Bool}
    (hkeep : ∀ t, isFlag flag t = true → keep t = false) (ts : List String) :
    (ts.filter keep).length =
      ((dropFlagValues flag ts).filter keep).length +
        ((flagValues flag ts).filter keep).length := by
  induction ts using dropFlagValues.induct flag with
  | case1 => rfl
  | case2 t h =>
    rw [dropFlagValues, if_pos h, List.filter_cons, hkeep t h]
    rfl
  | case3 t h =>
    rw [dropFlagValues, if_neg h]
    rfl
  | case4 v rest ih =>
    have hflag : ¬keep flag = true := Bool.eq_false_iff.mp (hkeep flag (isFlag_self flag))
    rw [dropFlagValues, flagValues, if_pos rfl, if_pos rfl, List.filter_cons_of_neg hflag]
    by_cases hv : keep v = true
    · rw [List.filter_cons_of_pos hv, List.filter_cons_of_pos hv, List.length_cons,
        List.length_cons, ih, Nat.add_assoc]
    · rw [List.filter_cons_of_neg hv, List.filter_cons_of_neg hv, ih]
  | case5 t v rest hne h ih =>
    rw [dropFlagValues, flagValues, if_neg hne, if_neg hne, if_pos h, List.filter_cons, hkeep t h]
    exact ih
  | case6 t v rest hne h ih =>
    rw [dropFlagValues, flagValues, if_neg hne, if_neg hne, if_neg h]
    by_cases ht : keep t = true
    · rw [List.filter_cons_of_pos ht, List.filter_cons_of_pos ht, List.length_cons,
        List.length_cons, ih, Nat.add_right_comm]
    · rw [List.filter_cons_of_neg ht, List.filter_cons_of_neg ht, ih]

/-! ### Pairs -/

/-- In `out`, wherever `a` and `b` follow each other in `ts` the words `new` stand for them, and
all other words are the same. -/
inductive PairsReplaced (a b : String) (new : List String) : List String → List String → Prop
  | nil : PairsReplaced a b new [] []
  | hit {ts out : List String} (h : PairsReplaced a b new ts out) :
      PairsReplaced a b new (a :: b :: ts) (new ++ out)
  | miss {t : String} {ts out : List String} (hno : ¬[a, b] <+: t :: ts)
      (h : PairsReplaced a b new ts out) : PairsReplaced a b new (t :: ts) (t :: out)

theorem pair_prefix_iff {x y : String} : [a, b] <+: x :: y :: ts ↔ x = a ∧ y = b := by
  rw [List.cons_prefix_cons, List.cons_prefix_cons]
  exact ⟨fun h => ⟨h.1.symm, h.2.1.symm⟩, fun h => ⟨h.1.symm, h.2.symm, List.nil_prefix⟩⟩

theorem not_pair_prefix_singleton (x : String) : ¬[a, b] <+: [x] := fun h =>
  Nat.not_succ_le_self 1 h.length_le

theorem hasPair_iff : hasPair a b ts = true ↔ [a, b] <:+: ts := by
  induction ts with
  | nil => simp [hasPair]
  | cons x ts ih =>
    cases ts with
    | nil =>
      rw [List.infix_cons_iff, or_iff_right (not_pair_prefix_singleton x), ← ih]
      rfl
    | cons y ts =>
      have hcons : [a, b] <:+: x :: y :: ts ↔ [a, b] <+: x :: y :: ts ∨ [a, b] <:+: y :: ts :=
        List.infix_cons_iff
      rw [hasPair, Bool.or_eq_true, ih, hcons, pair_prefix_iff, Bool.and_eq_true,
        decide_eq_true_eq, decide_eq_true_eq]

theorem replacePairIn_eq_self {new : String} (h : ¬[a, b] <:+: ts) :
    replacePairIn a b new ts = ts := by
  induction ts using replacePairIn.induct a b with
  | case1 x y rest hpair ih => exact absurd (pair_prefix_iff.mpr hpair).isInfix h
  | case2 x y rest hpair ih =>
    rw [replacePairIn, if_neg hpair, ih fun hrest => h (List.infix_cons hrest)]
  | case3 ts hts =>
    rw [replacePairIn]
    exact hts

theorem pairsReplaced_flatMap {new : String} (hwords : ∀ t ∈ ts, tokens t = [t]) :
    PairsReplaced a b (tokens new) ts ((replacePairIn a b new ts).flatMap tokens) := by
  induction ts using replacePairIn.induct a b with
  | case1 x y rest hpair ih =>
    rw [List.forall_mem_cons, List.forall_mem_cons] at hwords
    rw [replacePairIn, if_pos hpair, List.flatMap_cons]
    obtain ⟨rfl, rfl⟩ := hpair
    exact .hit (ih hwords.2.2)
  | case2 x y rest hpair ih =>
    rw [List.forall_mem_cons] at hwords
    rw [replacePairIn, if_neg hpair, List.flatMap_cons, hwords.1]
    exact .miss (fun h => hpair (pair_prefix_iff.mp h)) (ih hwords.2)
  | case3 ts hts =>
    cases ts with
    | nil => exact .nil
    | cons x rest =>
      cases rest with
      | nil =>
        rw [List.forall_mem_singleton] at hwords
        rw [replacePairIn, List.flatMap_singleton, hwords]
        · exact .miss (not_pair_prefix_singleton x) .nil
        · exact hts
      | cons y rest => exact absurd rfl (hts x y rest)

theorem pairsReplaced_replacePair (cmd a b new : String) :
    PairsReplaced a b (tokens new) (tokens cmd) (tokens (replacePair cmd a b new)) := by
  have hreplaced : PairsReplaced a b (tokens new) (tokens cmd)
      ((replacePairIn a b new (tokens cmd)).flatMap tokens) :=
    pairsReplaced_flatMap fun _ => tokens_of_mem
  unfold replacePair
  split
  · rwa [tokens_joined]
  next h =>
    rw [replacePairIn_eq_self fun hpair => h (hasPair_iff.mpr hpair),
      flatMap_tokens_of_subset (List.Subset.refl _)] at hreplaced
    exact hreplaced

/-- Where there is no such pair, all words stay. -/
theorem PairsReplaced.eq_self (h : PairsReplaced a b new ts out) (hno : ¬[a, b] <:+: ts) :
    out = ts := by
  induction h with
  | nil => rfl
  | hit h ih => exact absurd (List.prefix_append [a, b] _).isInfix hno
  | miss _ h ih => rw [ih fun hrest => hno (List.infix_cons hrest)]

/-- Where there is such a pair, the words that stand for it are there. -/
theorem PairsReplaced.subset (h : PairsReplaced a b new ts out) (hpair : [a, b] <:+: ts) :
    new ⊆ out := by
  induction h with
  | nil => exact absurd (List.infix_nil.mp hpair) (List.cons_ne_nil _ _)
  | hit h ih => exact List.subset_append_left _ _
  | miss hno h ih =>
    have hrest := (List.infix_cons_iff.mp hpair).resolve_left hno
    exact List.subset_cons_of_subset _ (ih hrest)

/-! ### Windows of two words -/

section Windows

variable {hit : List String → Bool} {first : List String} {other : String → List String}

/-- Whether the two words from a place on are taken. `hit` says of a list whether its first two
words are to be; from left to right, a word that has been taken is passed over. -/
def isTaken (hit : List String → Bool) (ts : List String) : Nat → Bool
  | 0 => hit ts
  | i + 1 => hit (ts.drop (i + 1)) && !isTaken hit ts i

/-- Whether the word at a place is taken as the second one. -/
def isSecond (hit : List String → Bool) (ts : List String) : Nat → Bool
  | 0 => false
  | i + 1 => isTaken hit ts i

/-- The words with `first` for each two that are taken, and for each of the others what `other`
makes of it. -/
def acrossWindows (hit : List String → Bool) (first : List String)
    (other : String → List String) (ts : List String) : List String :=
  (ts.mapIdx fun i t =>
    if isTaken hit ts i then first else if isSecond hit ts i then [] else other t).flatten

/-- Behind a word with which nothing is taken, the rest is gone over as by itself. -/
theorem isTaken_cons (h : hit (t :: ts) = false) (i : Nat) :
    isTaken hit (t :: ts) (i + 1) = isTaken hit ts i := by
  induction i with
  | zero => simp [isTaken, h]
  | succ i ih => rw [isTaken, ih, List.drop_succ_cons, isTaken]

theorem isSecond_cons (h : hit (t :: ts) = false) (i : Nat) :
    isSecond hit (t :: ts) (i + 1) = isSecond hit ts i := by
  cases i with
  | zero => exact h
  | succ i => exact isTaken_cons h i

/-- Behind two words that are taken, the rest is gone over as by itself. -/
theorem isTaken_cons_cons (h : hit (t :: v :: ts) = true) (i : Nat) :
    isTaken hit (t :: v :: ts) (i + 2) = isTaken hit ts i := by
  induction i with
  | zero => simp [isTaken, h]
  | succ i ih => rw [isTaken, ih, List.drop_succ_cons, List.drop_succ_cons, isTaken]

theorem isSecond_cons_cons (h : hit (t :: v :: ts) = true) (i : Nat) :
    isSecond hit (t :: v :: ts) (i + 2) = isSecond hit ts i := by
  cases i with
  | zero => simp [isSecond, isTaken, h]
  | succ i => exact isTaken_cons_cons h i

theorem acrossWindows_cons (h : hit (t :: ts) = false) :
    acrossWindows hit first other (t :: ts) = other t ++ acrossWindows hit first other ts := by
  have hfirst : isTaken hit (t :: ts) 0 = false := h
  have hplace : isSecond hit (t :: ts) 0 = false := rfl
  simp only [acrossWindows, List.mapIdx_cons, List.flatten_cons, hfirst, hplace,
    isTaken_cons h, isSecond_cons h, Bool.false_eq_true, if_false]

theorem acrossWindows_cons_cons (h : hit (t :: v :: ts) = true) :
    acrossWindows hit first other (t :: v :: ts) = first ++ acrossWindows hit first other ts := by
  have hfirst : isTaken hit (t :: v :: ts) 0 = true := h
  have hsecond : isTaken hit (t :: v :: ts) 1 = false := by simp [isTaken, h]
  have hplace : isSecond hit (t :: v :: ts) 1 = true := h
  simp only [acrossWindows, List.mapIdx_cons, List.flatten_cons, hfirst, Nat.zero_add, hsecond,
    hplace, isTaken_cons_cons h, isSecond_cons_cons h, Nat.add_assoc, Nat.reduceAdd, if_true,
    Bool.false_eq_true, if_false, List.nil_append]

end Windows

/-- The words with `new` for every two words `a b` that are taken. -/
def replacedPairs (a b new : String) (ts : List String) : List String :=
  acrossWindows ([a, b].isPrefixOf ·) [new] (fun t => [t]) ts

/-- The words without the flag, alone or with `=` and a value. A word behind the flag alone is taken
with it; where that is the flag again, it is the value of the one before. -/
def withoutFlagAndValues (flag : String) (ts : List String) : List String :=
  acrossWindows (·.head? == some flag) [] (fun t => if isFlag flag t then [] else [t]) ts

theorem replacedPairs_pair (a b new : String) (ts : List String) :
    replacedPairs a b new (a :: b :: ts) = new :: replacedPairs a b new ts :=
  acrossWindows_cons_cons (List.isPrefixOf_iff_prefix.mpr (List.prefix_append [a, b] ts))

theorem replacedPairs_cons (h : ¬[a, b] <+: t :: ts) (new : String) :
    replacedPairs a b new (t :: ts) = t :: replacedPairs a b new ts :=
  acrossWindows_cons (Bool.eq_false_iff.mpr fun hpair => h (List.isPrefixOf_iff_prefix.mp hpair))

theorem replacePairIn_eq (a b new : String) (ts : List String) :
    replacePairIn a b new ts = replacedPairs a b new ts := by
  induction ts using replacePairIn.induct a b with
  | case1 x y rest hpair ih =>
    obtain ⟨rfl, rfl⟩ := hpair
    rw [replacePairIn, if_pos ⟨rfl, rfl⟩, replacedPairs_pair, ih]
  | case2 x y rest hpair ih =>
    rw [replacePairIn, if_neg hpair, replacedPairs_cons fun h => hpair (pair_prefix_iff.mp h), ih]
  | case3 ts hts =>
    cases ts with
    | nil => rfl
    | cons x rest =>
      cases rest with
      | nil =>
        rw [replacePairIn, replacedPairs_cons (not_pair_prefix_singleton x)]
        · rfl
        · exact hts
      | cons y rest => exact absurd rfl (hts x y rest)

theorem withoutFlagAndValues_flag (flag v : String) (ts : List String) :
    withoutFlagAndValues flag (flag :: v :: ts) = withoutFlagAndValues flag ts := by
  let hit (ts : List String) : Bool := ts.head? == some flag
  have htaken : hit (flag :: v :: ts) = true := beq_self_eq_true (some flag)
  exact acrossWindows_cons_cons htaken

theorem withoutFlagAndValues_cons (h : t ≠ flag) (ts : List String) :
    withoutFlagAndValues flag (t :: ts) =
      (if isFlag flag t then [] else [t]) ++ withoutFlagAndValues flag ts := by
  let hit (ts : List String) : Bool := ts.head? == some flag
  have hleft : hit (t :: ts) = false := beq_false_of_ne fun he => h (Option.some.inj he)
  exact acrossWindows_cons hleft

theorem withoutFlagAndValues_singleton (flag t : String) :
    withoutFlagAndValues flag [t] = if isFlag flag t then [] else [t] := by
  by_cases h : t = flag
  · rw [h, if_pos (isFlag_self flag)]
    simp [withoutFlagAndValues, acrossWindows, isTaken]
  · rw [withoutFlagAndValues_cons h]
    exact List.append_nil _

theorem dropFlagValues_eq (flag : String) (ts : List String) :
    dropFlagValues flag ts = withoutFlagAndValues flag ts := by
  induction ts using dropFlagValues.induct flag with
  | case1 => rfl
  | case2 t h => rw [dropFlagValues, withoutFlagAndValues_singleton]
  | case3 t h => rw [dropFlagValues, withoutFlagAndValues_singleton]
  | case4 v rest ih => rw [dropFlagValues, if_pos rfl, withoutFlagAndValues_flag, ih]
  | case5 t v rest hne h ih =>
    rw [dropFlagValues, if_neg hne, if_pos h, withoutFlagAndValues_cons hne, if_pos h, ih]
    rfl
  | case6 t v rest hne h ih =>
    rw [dropFlagValues, if_neg hne, if_neg h, withoutFlagAndValues_cons hne, if_neg h, ih]
    rfl

example : withoutFlagAndValues "-n" ["pytest", "-n", "-n", "4"] = ["pytest", "4"] := by decide

/-! ### Flags in any order -/

theorem removeFlag_eq_self (h : (tokens cmd).any (isFlag flag) = false) :
    removeFlag cmd flag = cmd := by
  rw [removeFlag, if_neg (Bool.eq_false_iff.mp h)]

theorem removeFlagWithValue_eq_self (h : (tokens cmd).any (isFlag flag) = false) :
    removeFlagWithValue cmd flag = cmd := by
  rw [removeFlagWithValue, if_neg (Bool.eq_false_iff.mp h)]

/-- A list without the flag loses nothing. -/
theorem dropFlagValues_eq_self (h : ∀ t ∈ ts, isFlag flag t = false) :
    dropFlagValues flag ts = ts := by
  induction ts using dropFlagValues.induct flag with
  | case1 => rfl
  | case2 t ht => cases (h t List.mem_cons_self).symm.trans ht
  | case3 t ht => rw [dropFlagValues, if_neg ht]
  | case4 v rest => cases (h flag List.mem_cons_self).symm.trans (isFlag_self flag)
  | case5 t v rest hne ht => cases (h t List.mem_cons_self).symm.trans ht
  | case6 t v rest hne ht ih =>
    rw [dropFlagValues, if_neg hne, if_neg ht, ih fun x hx => h x (List.mem_cons_of_mem t hx)]

theorem tokens_removeFlagWithValue (cmd flag : String) :
    tokens (removeFlagWithValue cmd flag) = dropFlagValues flag (tokens cmd) := by
  unfold removeFlagWithValue
  split
  next => rw [tokens_joined, flatMap_tokens_of_subset (dropFlagValues_sublist flag _).subset]
  next h =>
    refine (dropFlagValues_eq_self fun t ht => Bool.eq_false_iff.mpr fun hflag => ?_).symm
    exact h (List.any_eq_true.mpr ⟨t, ht, hflag⟩)

theorem any_isAnyFlag_cons (flag : String) (flags ts : List String) :
    ts.any (isAnyFlag (flag :: flags)) = (ts.any (isFlag flag) || ts.any (isAnyFlag flags)) := by
  induction ts with
  | nil => rfl
  | cons t ts ih =>
    have hcons : isAnyFlag (flag :: flags) t = (isFlag flag t || isAnyFlag flags t) := List.any_cons
    rw [List.any_cons, List.any_cons, List.any_cons, ih, hcons, Bool.or_assoc, Bool.or_assoc,
      Bool.or_left_comm (isAnyFlag flags t)]

/-- Flags dropped one after the other are dropped at once. -/
theorem removeFlags_eq (flags : List String) (cmd : String) :
    flags.foldl removeFlag cmd =
      if (tokens cmd).any (isAnyFlag flags) then joined (withoutFlags flags (tokens cmd))
      else cmd := by
  induction flags generalizing cmd with
  | nil => simp [isAnyFlag]
  | cons flag flags ih =>
    rw [List.foldl_cons, ih, any_isAnyFlag_cons]
    cases hflag : (tokens cmd).any (isFlag flag) with
    | false =>
      have hwords :
          withoutFlags (flag :: flags) (tokens cmd) = withoutFlags flags (tokens cmd) := by
        rw [← tokens_removeFlags, ← tokens_removeFlags, List.foldl_cons, removeFlag_eq_self hflag]
      rw [removeFlag_eq_self hflag, hwords, Bool.false_or]
    | true =>
      have hwords : withoutFlags (flag :: flags) (tokens cmd) =
          withoutFlags flags (tokens (removeFlag cmd flag)) := by
        rw [← tokens_removeFlags, ← tokens_removeFlags, List.foldl_cons]
      rw [Bool.true_or, if_pos rfl, hwords]
      split
      · rfl
      next hnone =>
        -- no other flag is left, and the words are joined already
        have hself : withoutFlags flags (tokens (removeFlag cmd flag)) =
            tokens (removeFlag cmd flag) :=
          List.filter_eq_self.mpr fun t ht => by
            simpa using List.any_eq_false.mp (Bool.eq_false_iff.mpr hnone) t ht
        rw [hself, tokens_removeFlag, removeFlag, if_pos hflag]

theorem removeFlags_perm (h : flags.Perm flags') (cmd : String) :
    flags.foldl removeFlag cmd = flags'.foldl removeFlag cmd := by
  have hany : isAnyFlag flags = isAnyFlag flags' := funext fun _ => h.any_eq
  rw [removeFlags_eq, removeFlags_eq, withoutFlags, withoutFlags, hany]

/-! ### Edits and what they do to the words -/

theorem isFlag_iff :
    isFlag flag t = true ↔ t = flag ∨ ∃ value : String, t = flag ++ "=" ++ value := by
  rw [isFlag, Bool.or_eq_true, decide_eq_true_eq, List.isPrefixOf_iff_prefix]
  refine or_congr_right ⟨?_, ?_⟩
  · rintro ⟨value, h⟩
    refine ⟨String.ofList value, ?_⟩
    rw [← String.toList_inj, ← h]
    simp
  · rintro ⟨value, rfl⟩
    rw [String.toList_append, String.toList_append]
    exact List.prefix_append _ _

/-- An edit that leaves a command as it is, spacing included, unless it applies to a word of it.
Then the words are `ts`, with single spaces between them. -/
structure Rewords (cmd : String) (applies : Prop) (ts : List String) (out : String) : Prop where
  unmatched : ¬applies → out = cmd
  matched : applies → out = joined ts

/-- An edit that drops words and leaves the flag nowhere, so that doing it again does nothing. -/
structure Drops (flag cmd : String) (edit : String → String) : Prop where
  none_left : ∀ t ∈ tokens (edit cmd), isFlag flag t = false
  in_order : (tokens (edit cmd)).Sublist (tokens cmd)
  again : edit (edit cmd) = edit cmd

theorem rewords_replaceToken (cmd a new : String) :
    Rewords cmd (a ∈ tokens cmd) ((tokens cmd).map fun t => if t = a then new else t)
      (replaceToken cmd a new) where
  unmatched h := if_neg (mt List.contains_iff_mem.mp h)
  matched h := if_pos (List.contains_iff_mem.mpr h)

theorem rewords_replacePair (cmd a b new : String) :
    Rewords cmd ([a, b] <:+: tokens cmd) (replacedPairs a b new (tokens cmd))
      (replacePair cmd a b new) where
  unmatched h := if_neg (mt hasPair_iff.mp h)
  matched h := by rw [replacePair, if_pos (hasPair_iff.mpr h), replacePairIn_eq]

theorem rewords_removeFlag (cmd flag : String) :
    Rewords cmd (∃ t ∈ tokens cmd, isFlag flag t = true) ((tokens cmd).filter (!isFlag flag ·))
      (removeFlag cmd flag) where
  unmatched h := if_neg (mt List.any_eq_true.mp h)
  matched h := if_pos (List.any_eq_true.mpr h)

theorem rewords_removeFlagWithValue (cmd flag : String) :
    Rewords cmd (∃ t ∈ tokens cmd, isFlag flag t = true) (withoutFlagAndValues flag (tokens cmd))
      (removeFlagWithValue cmd flag) where
  unmatched h := if_neg (mt List.any_eq_true.mp h)
  matched h := by rw [removeFlagWithValue, if_pos (List.any_eq_true.mpr h), dropFlagValues_eq]

theorem removeFlag_comm (cmd flag flag' : String) :
    removeFlag (removeFlag cmd flag) flag' = removeFlag (removeFlag cmd flag') flag := by
  have hswap := removeFlags_perm (List.Perm.swap flag' flag []) cmd
  simpa only [List.foldl_cons, List.foldl_nil] using hswap

theorem any_isFlag_eq_false (h : ∀ t ∈ ts, isFlag flag t = false) : ts.any (isFlag flag) = false :=
  List.any_eq_false.mpr fun t ht => Bool.eq_false_iff.mp (h t ht)

theorem drops_removeFlag (cmd flag : String) : Drops flag cmd (removeFlag · flag) := by
  have hnone : ∀ t ∈ tokens (removeFlag cmd flag), isFlag flag t = false := by
    intro t ht
    rw [tokens_removeFlag, List.mem_filter, Bool.not_eq_true'] at ht
    exact ht.2
  refine ⟨hnone, ?_, removeFlag_eq_self (any_isFlag_eq_false hnone)⟩
  rw [tokens_removeFlag]
  exact List.filter_sublist

theorem drops_removeFlagWithValue (cmd flag : String) :
    Drops flag cmd (removeFlagWithValue · flag) := by
  have hnone : ∀ t ∈ tokens (removeFlagWithValue cmd flag), isFlag flag t = false := by
    intro t ht
    rw [tokens_removeFlagWithValue] at ht
    exact isFlag_of_mem_dropFlagValues ht
  refine ⟨hnone, ?_, removeFlagWithValue_eq_self (any_isFlag_eq_false hnone)⟩
  rw [tokens_removeFlagWithValue]
  exact dropFlagValues_sublist flag _

/-- What the edits make of a command is known from its words, between which there are blanks: each
word that is `a` is replaced, every two words `a b` from left to right, and a flag is dropped,
alone, with `=` and a value or, by the second edit, with the word behind it. What is changed has
single spaces between its words. A command in which none of this stands is not changed at all, and
in which order flags are dropped makes no difference. -/
theorem edits_by_words (cmd a b new flag flag' : String) :
    FallsInto cmd.toList ((tokens cmd).map String.toList) ∧
      (∀ ts : List String, joined ts = " ".intercalate ts) ∧
      (∀ t, isFlag flag t = true ↔ t = flag ∨ ∃ value : String, t = flag ++ "=" ++ value) ∧
      Rewords cmd (a ∈ tokens cmd) ((tokens cmd).map fun t => if t = a then new else t)
        (replaceToken cmd a new) ∧
      Rewords cmd ([a, b] <:+: tokens cmd) (replacedPairs a b new (tokens cmd))
        (replacePair cmd a b new) ∧
      Rewords cmd (∃ t ∈ tokens cmd, isFlag flag t = true)
        ((tokens cmd).filter (!isFlag flag ·)) (removeFlag cmd flag) ∧
      Rewords cmd (∃ t ∈ tokens cmd, isFlag flag t = true)
        (withoutFlagAndValues flag (tokens cmd)) (removeFlagWithValue cmd flag) ∧
      Drops flag cmd (removeFlag · flag) ∧ Drops flag cmd (removeFlagWithValue · flag) ∧
      removeFlag (removeFlag cmd flag) flag' = removeFlag (removeFlag cmd flag') flag :=
  ⟨fallsInto_tokens cmd, joined_eq, fun _ => isFlag_iff, rewords_replaceToken cmd a new,
    rewords_replacePair cmd a b new, rewords_removeFlag cmd flag,
    rewords_removeFlagWithValue cmd flag, drops_removeFlag cmd flag,
    drops_removeFlagWithValue cmd flag, removeFlag_comm cmd flag flag'⟩

/-- Pairs that overlap, a flag whose value is the flag again, one with `=` and one at the end, with
blanks of several kinds. -/
theorem edits_by_words_npm :
    let cmd := " npm  ci\tci ci\u00a0--omit dev --omit --omit --omit=peer --omit"
    tokens cmd = ["npm", "ci", "ci", "ci", "--omit", "dev", "--omit", "--omit", "--omit=peer",
      "--omit"] ∧
      replaceToken cmd "ci" "i -y" =
        "npm i -y i -y i -y --omit dev --omit --omit --omit=peer --omit" ∧
      replacePair cmd "ci" "ci" "i -y" =
        "npm i -y ci --omit dev --omit --omit --omit=peer --omit" ∧
      removeFlag cmd "--omit" = "npm ci ci ci dev" ∧
      removeFlagWithValue cmd "--omit" = "npm ci ci ci" ∧
      replaceToken cmd "omit" "i -y" = cmd ∧ replacePair cmd "omit" "ci" "i -y" = cmd ∧
      removeFlag cmd "--om" = cmd ∧ removeFlagWithValue cmd "--om" = cmd := by
  intro cmd
  obtain ⟨-, -, -, htoken, hpair, hflag, hvalue, -⟩ :=
    edits_by_words cmd "ci" "ci" "i -y" "--omit" "--om"
  obtain ⟨-, -, -, hnoToken, hnoPair, hnoFlag, hnoValue, -⟩ :=
    edits_by_words cmd "omit" "ci" "i -y" "--om" "--omit"
  have htokens : tokens cmd = ["npm", "ci", "ci", "ci", "--omit", "dev", "--omit", "--omit",
      "--omit=peer", "--omit"] := by decide +kernel
  rw [htokens] at htoken hpair hflag hvalue hnoToken hnoPair hnoFlag hnoValue
  exact ⟨htokens, (htoken.matched (by decide +kernel)).trans (by decide +kernel),
    (hpair.matched (by decide +kernel)).trans (by decide +kernel),
    (hflag.matched (by decide +kernel)).trans (by decide +kernel),
    (hvalue.matched (by decide +kernel)).trans (by decide +kernel),
    hnoToken.unmatched (by decide +kernel), hnoPair.unmatched (by decide +kernel),
    hnoFlag.unmatched (by decide +kernel), hnoValue.unmatched (by decide +kernel)⟩

end Command

end PatchTrial
