import Mathlib.Data.List.TakeWhile
import PatchTrial.Proofs.Text
import PatchTrial.Remedy.Command

/-!
# The words of a command line

Joining words by single spaces gives a text that has just these words, so an edit of a command is
known by what it does to the words: appending arguments appends their words, replacing a word
replaces it among the words, and dropping a flag leaves the other words.
-/
namespace PatchTrial

namespace Text

/-! ### Words -/

/-- A word is not empty and has no blanks. -/
structure IsWord (w : List Char) : Prop where
  ne_nil : w ≠ []
  solid : ∀ c ∈ w, isBlank c = false

theorem IsWord.of_all {w : List Char} (h : (!w.isEmpty && w.all (!isBlank ·)) = true) :
    IsWord w := by
  rw [Bool.and_eq_true, List.all_eq_true] at h
  exact ⟨by simpa using h.1, fun c hc => by simpa using h.2 c hc⟩

/-- No piece has a separator. The pieces stand in the text, the first one at its start. -/
theorem pieces_spec {p : Char → Bool} {cs first : List Char} {rest : List (List Char)}
    (h : pieces p cs = first :: rest) :
    first <+: cs ∧ (∀ w ∈ rest, w <:+: cs) ∧ ∀ w ∈ first :: rest, ∀ c ∈ w, p c = false := by
  induction cs generalizing first rest with
  | nil =>
    cases h
    simp
  | cons c cs ih =>
    obtain ⟨first', rest', hpieces⟩ := List.exists_cons_of_ne_nil (pieces_ne_nil p cs)
    obtain ⟨hfirst, hrest, hsolid⟩ := ih hpieces
    have hinfix : ∀ w ∈ rest', w <:+: c :: cs :=
      fun w hw => (hrest w hw).trans (List.suffix_cons c cs).isInfix
    rw [pieces, hpieces] at h
    split at h
    next =>
      cases h
      refine ⟨List.nil_prefix, ?_, ?_⟩
      · exact List.forall_mem_cons.mpr
          ⟨hfirst.isInfix.trans (List.suffix_cons c cs).isInfix, hinfix⟩
      · exact List.forall_mem_cons.mpr ⟨List.forall_mem_nil _, hsolid⟩
    next hc =>
      cases h
      rw [List.forall_mem_cons] at hsolid
      refine ⟨List.cons_prefix_cons.mpr ⟨rfl, hfirst⟩, hinfix, ?_⟩
      exact List.forall_mem_cons.mpr
        ⟨List.forall_mem_cons.mpr ⟨Bool.eq_false_iff.mpr hc, hsolid.1⟩, hsolid.2⟩

theorem isWord_of_mem_words {cs w : List Char} (h : w ∈ words cs) : IsWord w := by
  obtain ⟨hmem, hne⟩ := List.mem_filter.mp h
  obtain ⟨first, rest, hpieces⟩ := List.exists_cons_of_ne_nil (pieces_ne_nil isBlank cs)
  obtain ⟨-, -, hsolid⟩ := pieces_spec hpieces
  exact ⟨by simpa using hne, hsolid w (hpieces ▸ hmem)⟩

theorem infix_of_mem_words {cs w : List Char} (h : w ∈ words cs) : w <:+: cs := by
  obtain ⟨hmem, -⟩ := List.mem_filter.mp h
  obtain ⟨first, rest, hpieces⟩ := List.exists_cons_of_ne_nil (pieces_ne_nil isBlank cs)
  obtain ⟨hfirst, hrest, -⟩ := pieces_spec hpieces
  rcases List.mem_cons.mp (hpieces ▸ hmem) with rfl | hw
  · exact hfirst.isInfix
  · exact hrest w hw

theorem words_of_isWord {w : List Char} (h : IsWord w) : words w = [w] := by
  rw [words, pieces_eq_singleton h.solid]
  simp [h.ne_nil]

/-- A blank parts the words before it from those behind it. -/
theorem words_append_blank {b : Char} (hb : isBlank b = true) (xs ys : List Char) :
    words (xs ++ b :: ys) = words xs ++ words ys := by
  rw [words, pieces_append_sep hb, List.filter_append]
  rfl

/-- A blank at the front belongs to no word. -/
theorem words_cons_blank {b : Char} (hb : isBlank b = true) (cs : List Char) :
    words (b :: cs) = words cs := words_append_blank hb [] cs

theorem words_blanks_append {bs : List Char} (hbs : ∀ b ∈ bs, isBlank b = true) (cs : List Char) :
    words (bs ++ cs) = words cs := by
  induction bs with
  | nil => rfl
  | cons b bs ih =>
    rw [List.forall_mem_cons] at hbs
    rw [List.cons_append, words_cons_blank hbs.1, ih hbs.2]

theorem words_of_blanks {bs : List Char} (hbs : ∀ b ∈ bs, isBlank b = true) : words bs = [] := by
  rw [← List.append_nil bs, words_blanks_append hbs]
  rfl

theorem words_append_blanks (xs : List Char) {bs : List Char}
    (hbs : ∀ b ∈ bs, isBlank b = true) : words (xs ++ bs) = words xs := by
  cases bs with
  | nil => rw [List.append_nil]
  | cons b bs =>
    rw [List.forall_mem_cons] at hbs
    rw [words_append_blank hbs.1, words_of_blanks hbs.2, List.append_nil]

/-- A text is what trimming its end leaves, and blanks. -/
theorem exists_trimEnd_append (cs : List Char) :
    ∃ bs, (∀ b ∈ bs, isBlank b = true) ∧ cs = trimEnd cs ++ bs := by
  refine ⟨(cs.reverse.takeWhile isBlank).reverse, fun b hb => ?_, ?_⟩
  · exact List.mem_takeWhile_imp (List.mem_reverse.mp hb)
  · rw [trimEnd, ← List.reverse_append, List.takeWhile_append_dropWhile, List.reverse_reverse]

/-- A text is what trimming leaves, and blanks around it. -/
theorem exists_trim (cs : List Char) :
    ∃ lead trail, (∀ b ∈ lead, isBlank b = true) ∧ (∀ b ∈ trail, isBlank b = true) ∧
      cs = lead ++ (trim cs ++ trail) := by
  obtain ⟨trail, htrail, hstart⟩ := exists_trimEnd_append (trimStart cs)
  refine ⟨cs.takeWhile isBlank, trail, fun b hb => List.mem_takeWhile_imp hb, htrail, ?_⟩
  rw [trim, ← hstart, trimStart, List.takeWhile_append_dropWhile]

theorem unpadded_trim (cs : List Char) : Unpadded (trim cs) := by
  constructor
  · intro c hc
    obtain ⟨bs, -, hstart⟩ := exists_trimEnd_append (trimStart cs)
    have hhead : (cs.dropWhile isBlank).head? = some c := by
      rw [← trimStart, hstart, List.head?_append, ← trim, hc, Option.some_or]
    simpa [hhead] using List.head?_dropWhile_not isBlank cs
  · intro c hc
    rw [trim, trimEnd, List.getLast?_reverse] at hc
    simpa [hc] using List.head?_dropWhile_not isBlank (trimStart cs).reverse

/-- How a text falls into words: blanks, a word that goes on up to the next blank, and so on. -/
inductive FallsInto : List Char → List (List Char) → Prop
  | blanks {bs : List Char} (hbs : ∀ b ∈ bs, isBlank b = true) : FallsInto bs []
  | word {bs w rest : List Char} {ws : List (List Char)} (hbs : ∀ b ∈ bs, isBlank b = true)
      (hw : IsWord w) (hend : ∀ c ∈ rest.head?, isBlank c = true) (hrest : FallsInto rest ws) :
      FallsInto (bs ++ (w ++ rest)) (w :: ws)

theorem FallsInto.words_eq {cs : List Char} {ws : List (List Char)} (h : FallsInto cs ws) :
    words cs = ws := by
  induction h with
  | blanks hbs => exact words_of_blanks hbs
  | @word bs w rest ws hbs hw hend _ ih =>
    rw [words_blanks_append hbs]
    cases rest with
    | nil => rw [List.append_nil, words_of_isWord hw, ← ih]; rfl
    | cons c rest =>
      have hc : isBlank c = true := hend c rfl
      rw [words_append_blank hc, words_of_isWord hw, ← ih, words_cons_blank hc,
        List.singleton_append]

/-- A text falls into its words. -/
theorem fallsInto_words (cs : List Char) : FallsInto cs (words cs) := by
  -- what stands behind the first word is shorter
  induction h : cs.length using Nat.strongRecOn generalizing cs with
  | ind n ih =>
    subst h
    let lead := cs.takeWhile isBlank
    let body := cs.dropWhile isBlank
    have hlead : ∀ b ∈ lead, isBlank b = true := fun b hb => List.mem_takeWhile_imp hb
    have hcs : lead ++ body = cs := List.takeWhile_append_dropWhile
    rcases hbody : body with - | ⟨c, body'⟩
    · rw [hbody, List.append_nil] at hcs
      rw [← hcs, words_of_blanks hlead]
      exact .blanks hlead
    have hc : isBlank c = false := by
      have hnot := List.head?_dropWhile_not isBlank cs
      simpa [show cs.dropWhile isBlank = c :: body' from hbody] using hnot
    let w := body.takeWhile (!isBlank ·)
    let rest := body.dropWhile (!isBlank ·)
    have hsplit : w ++ rest = body := List.takeWhile_append_dropWhile
    have hw : IsWord w := by
      refine ⟨?_, fun d hd => ?_⟩
      · simp [w, hbody, hc]
      · simpa using List.mem_takeWhile_imp hd
    have hend : ∀ d ∈ rest.head?, isBlank d = true := by
      intro d hd
      have hnot := List.head?_dropWhile_not (!isBlank ·) body
      simpa [show (body.dropWhile (!isBlank ·)).head? = some d from hd] using hnot
    have hshort : rest.length < cs.length := by
      have hlength := congrArg List.length hsplit
      have hlength' := congrArg List.length hcs
      rw [List.length_append] at hlength hlength'
      have hpos := List.length_pos_of_ne_nil hw.ne_nil
      omega
    have hfall := FallsInto.word hlead hw hend (ih rest.length hshort rest rfl)
    rw [hsplit, hcs] at hfall
    rw [hfall.words_eq]
    exact hfall

theorem words_trimEnd (cs : List Char) : words (trimEnd cs) = words cs := by
  obtain ⟨bs, hbs, hcs⟩ := exists_trimEnd_append cs
  conv_rhs => rw [hcs]
  exact (words_append_blanks _ hbs).symm

theorem words_unwords (ws : List (List Char)) : words (unwords ws) = ws.flatMap words := by
  induction ws with
  | nil => rfl
  | cons w ws ih =>
    cases ws with
    | nil => simp [unwords]
    | cons v ws =>
      have hcons : unwords (w :: v :: ws) = w ++ ' ' :: unwords (v :: ws) := by
        simp [unwords, List.intercalate]
      rw [hcons, words_append_blank (by decide), ih]
      rfl

/-! ### Runs of characters -/

theorem occursIn_iff {needle cs : List Char} : occursIn needle cs = true ↔ needle <:+: cs := by
  induction cs with
  | nil => simp [occursIn, List.isEmpty_iff]
  | cons c cs ih =>
    rw [occursIn, Bool.or_eq_true, ih, List.isPrefixOf_iff_prefix, List.infix_cons_iff]

/-- What has no separator occurs before it or behind it. -/
theorem infix_append_cons_iff {α : Type} {part : List α} {b : α} (hb : b ∉ part)
    (xs ys : List α) : part <:+: xs ++ b :: ys ↔ part <:+: xs ∨ part <:+: ys := by
  have hstart (xs : List α) : part <+: xs ++ b :: ys ↔ part <+: xs := by
    refine ⟨fun hp => ?_, fun hp => hp.trans (List.prefix_append _ _)⟩
    rcases List.prefix_or_prefix_of_prefix hp (List.prefix_append xs (b :: ys)) with h | ⟨t, rfl⟩
    · exact h
    cases t with
    | nil => exact (List.append_nil xs).symm ▸ List.prefix_rfl
    | cons c t =>
      obtain ⟨rfl, -⟩ := List.cons_prefix_cons.mp ((List.prefix_append_right_inj xs).mp hp)
      exact absurd (List.mem_append_right _ List.mem_cons_self) hb
  induction xs with
  | nil =>
    rw [List.nil_append, List.infix_cons_iff, ← List.nil_append (b :: ys), hstart,
      List.prefix_nil, List.infix_nil]
  | cons x xs ih =>
    rw [List.cons_append, List.infix_cons_iff, ← List.cons_append, hstart, or_congr_right ih,
      ← or_assoc, ← List.infix_cons_iff]

/-- The blanks at the end of a text take no part in what occurs in it. -/
theorem infix_trimEnd_iff {part : List Char} (h : IsWord part) (cs : List Char) :
    part <:+: trimEnd cs ↔ part <:+: cs := by
  obtain ⟨bs, hbs, hcs⟩ := exists_trimEnd_append cs
  conv_rhs => rw [hcs]
  cases bs with
  | nil => rw [List.append_nil]
  | cons b bs =>
    rw [List.forall_mem_cons] at hbs
    have hb : b ∉ part := fun hmem => Bool.false_ne_true ((h.solid b hmem).symm.trans hbs.1)
    rw [infix_append_cons_iff hb]
    refine ⟨Or.inl, fun hor => hor.resolve_right fun hblank => ?_⟩
    obtain ⟨c, part, rfl⟩ := List.exists_cons_of_ne_nil h.ne_nil
    have hc := hbs.2 c (hblank.subset List.mem_cons_self)
    exact Bool.false_ne_true ((h.solid c List.mem_cons_self).symm.trans hc)

end Text

open Text

theorem isBlankText_iff {cmd : String} :
    isBlankText cmd = true ↔ ∀ c ∈ cmd.toList, isBlank c = true := by
  have hend : ∀ {cs : List Char}, trimEnd cs = [] ↔ ∀ c ∈ cs, isBlank c = true := by
    simp [trimEnd, List.dropWhile_eq_nil_iff]
  rw [isBlankText, List.isEmpty_iff, trim, hend, trimStart]
  refine ⟨fun h c hc => ?_, fun h c hc => h c ((List.dropWhile_sublist _).subset hc)⟩
  rw [← List.takeWhile_append_dropWhile (p := isBlank) (l := cmd.toList)] at hc
  exact (List.mem_append.mp hc).elim List.mem_takeWhile_imp (h c)

theorem words_of_isBlankText {cmd : String} (h : isBlankText cmd = true) :
    words cmd.toList = [] := words_of_blanks (isBlankText_iff.mp h)

namespace Plan

theorem mentions_iff {cmd part : String} :
    mentions cmd part = true ↔ part.toList <:+: cmd.toList := occursIn_iff

/-- What stands at the end of a command occurs in it. -/
theorem mentions_append (cmd part : String) : mentions (cmd ++ part) part = true := by
  rw [mentions_iff, String.toList_append]
  exact (List.suffix_append _ _).isInfix

end Plan

namespace Command

/-! ### Tokens -/

theorem tokens_of_mem {cmd t : String} (h : t ∈ tokens cmd) : tokens t = [t] := by
  obtain ⟨w, hw, rfl⟩ := List.mem_map.mp h
  rw [tokens, String.toList_ofList, words_of_isWord (isWord_of_mem_words hw)]
  rfl

theorem tokens_of_isBlankText {cmd : String} (h : isBlankText cmd = true) : tokens cmd = [] := by
  rw [tokens, words_of_isBlankText h]
  rfl

/-- A command with a word is not blank. -/
theorem isBlankText_of_mem {cmd t : String} (h : t ∈ tokens cmd) : isBlankText cmd = false := by
  refine Bool.eq_false_iff.mpr fun hblank => ?_
  rw [tokens_of_isBlankText hblank] at h
  cases h

/-- A command falls into its tokens. -/
theorem fallsInto_tokens (cmd : String) :
    FallsInto cmd.toList ((tokens cmd).map String.toList) := by
  have hback : (tokens cmd).map String.toList = words cmd.toList := by simp [tokens]
  rw [hback]
  exact fallsInto_words cmd.toList

theorem joined_eq (ts : List String) : joined ts = " ".intercalate ts := by
  rw [← String.toList_inj, joined, String.toList_ofList, String.toList_intercalate]
  rfl

theorem tokens_joined (ts : List String) : tokens (joined ts) = ts.flatMap tokens := by
  rw [tokens, joined, String.toList_ofList, words_unwords, List.map_flatMap, List.flatMap_map]
  rfl

theorem toList_appendArgs (cmd args : String) :
    (appendArgs cmd args).toList = trimEnd cmd.toList ++ ' ' :: args.toList := by
  simp [appendArgs, trimmedEnd]

theorem tokens_appendArgs (cmd args : String) :
    tokens (appendArgs cmd args) = tokens cmd ++ tokens args := by
  rw [tokens, toList_appendArgs, words_append_blank (by decide), words_trimEnd, List.map_append]
  rfl

theorem hasToken_appendArgs (cmd args t : String) :
    hasToken (appendArgs cmd args) t = (hasToken cmd t || hasToken args t) := by
  rw [hasToken, tokens_appendArgs, List.contains_append]
  rfl

theorem hasTokenStart_appendArgs (cmd args start : String) :
    hasTokenStart (appendArgs cmd args) start =
      (hasTokenStart cmd start || hasTokenStart args start) := by
  rw [hasTokenStart, tokens_appendArgs, List.any_append]
  rfl

theorem isBlankText_appendArgs {cmd args t : String} (h : t ∈ tokens args) :
    isBlankText (appendArgs cmd args) = false :=
  isBlankText_of_mem (by rw [tokens_appendArgs]; exact List.mem_append_right _ h)

/-- A text without blanks occurs in the command or in what is appended. -/
theorem mentions_appendArgs {part : String} (h : IsWord part.toList) (cmd args : String) :
    Plan.mentions (appendArgs cmd args) part =
      (Plan.mentions cmd part || Plan.mentions args part) := by
  have hblank : ' ' ∉ part.toList := fun hmem => by cases (h.solid ' ' hmem)
  rw [Bool.eq_iff_iff, Bool.or_eq_true, Plan.mentions_iff, Plan.mentions_iff, Plan.mentions_iff,
    toList_appendArgs, infix_append_cons_iff hblank, infix_trimEnd_iff h]

/-- A word that a command has occurs in it. -/
theorem mentions_of_hasToken {cmd t : String} (h : hasToken cmd t = true) :
    Plan.mentions cmd t = true := by
  obtain ⟨w, hw, rfl⟩ := List.mem_map.mp (List.contains_iff_mem.mp h)
  rw [Plan.mentions_iff, String.toList_ofList]
  exact infix_of_mem_words hw

theorem flatMap_tokens_of_subset {cmd : String} {ts : List String} (h : ts ⊆ tokens cmd) :
    ts.flatMap tokens = ts := by
  induction ts with
  | nil => rfl
  | cons t ts ih =>
    obtain ⟨ht, hts⟩ := List.cons_subset.mp h
    rw [List.flatMap_cons, tokens_of_mem ht, ih hts, List.singleton_append]

theorem tokens_replaceToken (cmd a new : String) :
    tokens (replaceToken cmd a new) =
      (tokens cmd).flatMap fun t => if t = a then tokens new else [t] := by
  unfold replaceToken
  split
  next =>
    rw [tokens_joined, List.flatMap_map]
    refine List.flatMap_congr ?_
    intro t ht
    split
    · rfl
    · exact tokens_of_mem ht
  next h =>
    have hself : ∀ t ∈ tokens cmd, (if t = a then tokens new else [t]) = [t] := by
      intro t ht
      rw [if_neg]
      rintro rfl
      exact h (List.contains_iff_mem.mpr ht)
    rw [List.flatMap_congr hself, List.flatMap_singleton']

/-- What is put in stands behind words of the command. -/
theorem mem_of_insertAfterPair? {cmd a b args next t : String}
    (h : insertAfterPair? cmd a b args = some next) (ht : t ∈ tokens args) : t ∈ tokens next := by
  obtain ⟨ts, hts, rfl⟩ := Option.map_eq_some_iff.mp h
  have hmem {ts ts' : List String} (h : insertAfterPairIn? a b args ts = some ts') :
      args ∈ ts' := by
    induction ts generalizing ts' with
    | nil => cases h
    | cons x ts ih =>
      cases ts with
      | nil => cases h
      | cons y ts =>
        rw [insertAfterPairIn?] at h
        split at h
        next =>
          cases h
          simp
        next =>
          obtain ⟨rest, hrest, rfl⟩ := Option.map_eq_some_iff.mp h
          exact List.mem_cons_of_mem _ (ih hrest)
  rw [tokens_joined]
  exact List.mem_flatMap.mpr ⟨args, hmem hts, ht⟩

theorem tokens_removeFlag (cmd flag : String) :
    tokens (removeFlag cmd flag) = (tokens cmd).filter (!isFlag flag ·) := by
  unfold removeFlag
  split
  next => rw [tokens_joined, flatMap_tokens_of_subset (List.filter_subset_self _)]
  next h =>
    refine (List.filter_eq_self.mpr ?_).symm
    intro t ht
    simpa using fun hflag => h (List.any_eq_true.mpr ⟨t, ht, hflag⟩)

end Command

end PatchTrial
