import PatchTrial.Proofs.DroppedFlags

/-!
# Commands after a lock file was out of date

For Node, Ruby and Rust the answer to an outdated lock file drops the flags that hold a command to
it, and none of them is left. For Node `npm ci` is replaced first, and flags are dropped then. So a
command in which `npm` and `ci` are apart by nothing but such flags becomes one that has `npm ci`.

Main statement: `lockfile_relaxed`.
-/
namespace PatchTrial

open Command

namespace Command

variable {a b c t : String} {flags part between ts out : List String} {keep : String → Bool}

/-! ### Words that become neighbours -/

/-- Somewhere `a` stands before `b`, with flags between them, at least one, and nothing else. -/
def ApartByFlags (flags : List String) (a b : String) (ts : List String) : Prop :=
  ∃ between, between ≠ [] ∧ (∀ t ∈ between, isAnyFlag flags t = true) ∧
    a :: (between ++ [b]) <:+: ts

theorem singleton_prefix_filter_iff (hb : keep b = true) :
    [b] <+: ts.filter keep ↔
      ∃ between, (∀ t ∈ between, keep t = false) ∧ between ++ [b] <+: ts := by
  induction ts with
  | nil => simp
  | cons x ts ih =>
    by_cases hx : keep x = true
    · rw [List.filter_cons_of_pos hx]
      constructor
      · intro h
        obtain ⟨rfl, -⟩ := List.cons_prefix_cons.mp h
        exact ⟨[], List.forall_mem_nil _, List.cons_prefix_cons.mpr ⟨rfl, List.nil_prefix⟩⟩
      · rintro ⟨between, hall, h⟩
        cases between with
        | nil =>
          obtain ⟨rfl, -⟩ := List.cons_prefix_cons.mp h
          exact List.cons_prefix_cons.mpr ⟨rfl, List.nil_prefix⟩
        | cons y between =>
          obtain ⟨rfl, -⟩ := List.cons_prefix_cons.mp h
          cases hx.symm.trans (hall y List.mem_cons_self)
    · rw [List.filter_cons_of_neg hx, ih]
      constructor
      · rintro ⟨between, hall, h⟩
        exact ⟨x :: between, List.forall_mem_cons.mpr ⟨Bool.eq_false_iff.mpr hx, hall⟩,
          List.cons_prefix_cons.mpr ⟨rfl, h⟩⟩
      · rintro ⟨between, hall, h⟩
        cases between with
        | nil =>
          obtain ⟨rfl, -⟩ := List.cons_prefix_cons.mp h
          exact absurd hb hx
        | cons y between =>
          rw [List.forall_mem_cons] at hall
          exact ⟨between, hall.2, (List.cons_prefix_cons.mp h).2⟩

/-- Two words are neighbours among those that are kept if no word between them is kept. -/
theorem pair_infix_filter_iff (ha : keep a = true) (hb : keep b = true) :
    [a, b] <:+: ts.filter keep ↔
      ∃ between, (∀ t ∈ between, keep t = false) ∧ a :: (between ++ [b]) <:+: ts := by
  induction ts with
  | nil => simp
  | cons x ts ih =>
    simp only [List.infix_cons_iff, List.cons_prefix_cons, and_or_left, exists_or,
      and_left_comm, exists_and_left]
    rw [← singleton_prefix_filter_iff hb, ← ih]
    by_cases hx : keep x = true
    · rw [List.filter_cons_of_pos hx, List.infix_cons_iff, List.cons_prefix_cons]
    · rw [List.filter_cons_of_neg hx, or_iff_right]
      rintro ⟨rfl, -⟩
      exact hx ha

/-! ### Pairs that are replaced -/

theorem not_prefix_cons (hpart : ∀ t ∈ part, t ≠ c) (hbc : b ≠ c) (xs : List String) :
    ¬part ++ [b] <+: c :: xs := by
  cases part with
  | nil => exact fun h => hbc (List.cons_prefix_cons.mp h).1
  | cons x part => exact fun h => hpart x List.mem_cons_self (List.cons_prefix_cons.mp h).1

theorem PairsReplaced.prefix_iff {new : List String} (h : PairsReplaced a b (a :: new) ts out)
    (hab : b ≠ a) (hpart : ∀ t ∈ part, t ≠ a) : part ++ [b] <+: out ↔ part ++ [b] <+: ts := by
  induction h generalizing part with
  | nil => exact Iff.rfl
  | hit h ih => exact iff_of_false (not_prefix_cons hpart hab _) (not_prefix_cons hpart hab _)
  | miss hno h ih =>
    cases part with
    | nil => simp only [List.nil_append, List.cons_prefix_cons, List.nil_prefix, and_true]
    | cons x part =>
      rw [List.forall_mem_cons] at hpart
      rw [List.cons_append, List.cons_prefix_cons, List.cons_prefix_cons, ih hpart.2]

/-- Where `a c` stands for `a b`, only such `a` and `b` are left that were apart. -/
theorem PairsReplaced.apart_iff (h : PairsReplaced a b [a, c] ts out) (hba : b ≠ a) (hca : c ≠ a)
    (hbc : b ≠ c) (hbetween : ∀ t ∈ between, t ≠ a ∧ t ≠ b ∧ t ≠ c) :
    a :: (between ++ [b]) <:+: out ↔ between ≠ [] ∧ a :: (between ++ [b]) <:+: ts := by
  induction h with
  | nil => simp
  | @hit ts out h ih =>
    have hold (hne : between ≠ []) : ¬between ++ [b] <+: b :: ts := by
      obtain ⟨x, between, rfl⟩ := List.exists_cons_of_ne_nil hne
      exact fun h => (hbetween x List.mem_cons_self).2.1 (List.cons_prefix_cons.mp h).1
    have hnew : ¬between ++ [b] <+: c :: out :=
      not_prefix_cons (fun t ht => (hbetween t ht).2.2) hbc out
    simp only [List.cons_append, List.nil_append, List.infix_cons_iff, List.cons_prefix_cons, ih,
      hnew, hca.symm, hba.symm, true_and, false_and, false_or]
    exact and_congr_right fun hne => by rw [or_iff_right (hold hne)]
  | @miss t ts out hno h ih =>
    have hpart : ∀ t ∈ between, t ≠ a := fun t ht => (hbetween t ht).1
    have hne (hstart : a = t ∧ between ++ [b] <+: ts) : between ≠ [] := by
      rintro rfl
      exact hno (List.cons_prefix_cons.mpr hstart)
    rw [List.infix_cons_iff, List.infix_cons_iff, List.cons_prefix_cons, List.cons_prefix_cons,
      h.prefix_iff hba hpart, ih, and_or_left]
    exact or_congr_left ⟨fun hstart => ⟨hne hstart, hstart⟩, And.right⟩

end Command

namespace Ecosystem

variable {e : Ecosystem} {d : Detection} {p q : Plan} {f : Failure} {s : Step} {t flag : String}

/-! ### What is left -/

theorem thawed_subset (ts : List String) : thawed ts ⊆ ["--no-frozen-lockfile"] := by
  unfold thawed
  split
  · exact List.Subset.refl _
  · exact List.nil_subset _

/-- Appending the flag for pnpm makes no `npm ci`. -/
theorem pair_infix_thawed_iff (ts : List String) :
    ["npm", "ci"] <:+: ts ++ thawed ts ↔ ["npm", "ci"] <:+: ts := by
  unfold thawed
  split
  · rw [Text.infix_append_cons_iff (by decide), List.infix_nil]
    exact or_iff_left (List.cons_ne_nil _ _)
  · rw [List.append_nil]

/-- The words of the command are `npm ci` somewhere if flags stood between them before. -/
theorem Follows.npm_ci_iff (h : node.Follows d p .lockfileDrift q) :
    ["npm", "ci"] <:+: q.tokensOf .install ↔
      ApartByFlags (node.droppedFlags .lockfileDrift) "npm" "ci" (p.tokensOf .install) := by
  obtain ⟨ts, hpairs, hq⟩ := h.tokensOf_relaxed
  rw [hq, pair_infix_thawed_iff, withoutFlags, pair_infix_filter_iff (by decide) (by decide)]
  refine exists_congr fun between => ?_
  simp only [Bool.not_eq_false']
  rw [and_left_comm]
  refine and_congr_right fun hflags => hpairs.apart_iff (by decide) (by decide) (by decide) ?_
  -- None of the three words is a flag.
  have hother {w : String} (hw : isAnyFlag (node.droppedFlags .lockfileDrift) w = false) :
      ∀ t ∈ between, t ≠ w := by
    rintro t ht rfl
    exact Bool.false_ne_true (hw.symm.trans (hflags t ht))
  exact fun t ht => ⟨hother (by decide) t ht, hother (by decide) t ht, hother (by decide) t ht⟩

/-- No flag is left that the answer to an outdated lock file drops. -/
theorem Follows.isFlag_eq_false (h : e.Follows d p .lockfileDrift q)
    (hs : s ∈ e.targets .lockfileDrift) (ht : t ∈ q.tokensOf s)
    (hflag : flag ∈ e.droppedFlags .lockfileDrift) : isFlag flag t = false := by
  cases e with
  | node =>
    obtain rfl := List.mem_singleton.mp hs
    obtain ⟨ts, -, hq⟩ := h.tokensOf_relaxed
    rw [hq, List.mem_append] at ht
    rcases ht with ht | ht
    · exact isFlag_of_mem_withoutFlags ht hflag
    · obtain rfl := List.mem_singleton.mp (thawed_subset _ ht)
      revert flag
      decide
  | ruby =>
    obtain rfl := List.mem_singleton.mp hs
    rw [h.tokensOf_bundler] at ht
    exact isFlag_of_mem_withoutFlags ht hflag
  | rust =>
    rw [h.tokensOf_unlocked] at ht
    exact isFlag_of_mem_withoutFlags ht hflag
  | _ => cases hflag

/-- After an outdated lock file no command that is edited has a flag that holds it to the lock file,
alone or with a value behind `=`. The install command of Node has `npm ci` just where `npm` and `ci`
were apart by such flags before. -/
theorem lockfile_relaxed (e : Ecosystem) (d : Detection) (p q : Plan) (f : Failure)
    (h : e.revisedPlan? d p f = some q) (hr : f.reason = .lockfileDrift) :
    (∀ s ∈ e.targets .lockfileDrift, ∀ t ∈ q.tokensOf s, ∀ flag ∈ e.droppedFlags .lockfileDrift,
      isFlag flag t = false) ∧
    (e = .node → (["npm", "ci"] <:+: q.tokensOf .install ↔
      ApartByFlags (node.droppedFlags .lockfileDrift) "npm" "ci" (p.tokensOf .install))) := by
  have hq : e.Follows d p .lockfileDrift q := hr ▸ follows_of_revisedPlan? h
  refine ⟨fun s hs t ht flag hflag => hq.isFlag_eq_false hs ht hflag, ?_⟩
  rintro rfl
  exact hq.npm_ci_iff

/-- A site that gives npm a flag before what it is to do. -/
def frozenSite : Detection where
  language := .node
  commands := { PerStep.const none with install := some "npm --frozen-lockfile ci" }

theorem lockfile_relaxed_frozen :
    ∃ q, node.revisedPlan? frozenSite (node.strictPlan frozenSite)
        ⟨"install", .lockfileDrift, "", ""⟩ = some q ∧
      ["npm", "ci"] <:+: q.tokensOf .install := by
  obtain ⟨q, hq⟩ : ∃ q, node.revisedPlan? frozenSite (node.strictPlan frozenSite)
      ⟨"install", .lockfileDrift, "", ""⟩ = some q := ⟨_, rfl⟩
  refine ⟨q, hq, ((lockfile_relaxed node frozenSite _ q _ hq rfl).2 rfl).mpr ?_⟩
  exact ⟨["--frozen-lockfile"], by decide, by decide, ⟨[], [], by decide⟩⟩

/-- So the strict way to install can come about by dropping the flags. -/
theorem not_all_strictness_gone :
    ¬∀ (e : Ecosystem) (d : Detection) (p q : Plan) (f : Failure),
      e.revisedPlan? d p f = some q → f.reason = .lockfileDrift →
      (∀ s ∈ e.targets .lockfileDrift, ∀ t ∈ q.tokensOf s,
        ∀ flag ∈ e.droppedFlags .lockfileDrift, isFlag flag t = false) ∧
      (e = .node → ¬["npm", "ci"] <:+: q.tokensOf .install) := by
  intro hall
  have hgone := (hall node frozenSite (node.strictPlan frozenSite) _
    ⟨"install", .lockfileDrift, "", ""⟩ rfl rfl).2 rfl
  exact hgone ⟨[], [], by decide⟩

end Ecosystem

end PatchTrial
