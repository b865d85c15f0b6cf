import PatchTrial.Digest
import PatchTrial.Proofs.ReportText
import PatchTrial.Proofs.WrittenFiles

/-!
# Reports on disk

A report that was written is read back as it was if its text and its digest are in two files that
may be read. They are, unless there are links or files of other modes; if they are not, no report is
read. If other bytes are put in place of the text, there is no report to be read any more, but only
the two digests that differ. Bytes are told apart by their hexadecimal digits, around which there
are no blanks.

Main statements: `Report.read_write`, `Report.holdsApart_of_read` and
`Report.holdsApart_of_isPlain`.
-/
namespace PatchTrial.Digest

theorem digitChar_injective : ∀ m < 16, ∀ n < 16, Nat.digitChar m = Nat.digitChar n → m = n := by
  decide

theorem isBlank_digitChar : ∀ n < 16, Text.isBlank (Nat.digitChar n) = false := by decide

theorem hexByte_injective {b c : UInt8} (h : hexByte b = hexByte c) : b = c := by
  obtain ⟨hhigh, htail⟩ := List.cons.inj h
  obtain ⟨hlow, -⟩ := List.cons.inj htail
  have hb := b.toNat_lt
  have hc := c.toNat_lt
  have hhigh := digitChar_injective _ (by omega) _ (by omega) hhigh
  have hlow := digitChar_injective _ (by omega) _ (by omega) hlow
  rw [← UInt8.toNat_inj]
  omega

theorem flatMap_hexByte_injective : ∀ {bs cs : List UInt8},
    bs.flatMap hexByte = cs.flatMap hexByte → bs = cs
  | [], [], _ => rfl
  | [], _ :: _, h => nomatch h
  | _ :: _, [], h => nomatch h
  | b :: bs, c :: cs, h => by
    rw [List.flatMap_cons, List.flatMap_cons] at h
    obtain ⟨hhead, htail⟩ := List.append_inj h rfl
    rw [hexByte_injective hhead, flatMap_hexByte_injective htail]

/-- Different bytes have different digits. -/
theorem hex_injective {bs cs : List UInt8} (h : hex bs = hex cs) : bs = cs :=
  flatMap_hexByte_injective (String.ofList_injective h)

theorem isBlank_of_mem_hex {bs : List UInt8} {c : Char} (h : c ∈ bs.flatMap hexByte) :
    Text.isBlank c = false := by
  obtain ⟨b, -, hc⟩ := List.mem_flatMap.mp h
  have hb := b.toNat_lt
  rw [hexByte, List.mem_cons, List.mem_singleton] at hc
  rcases hc with rfl | rfl
  · exact isBlank_digitChar _ (by omega)
  · exact isBlank_digitChar _ (by omega)

/-- Nothing is trimmed off digits. -/
theorem trimmed_hex (bs : List UInt8) : trimmed (hex bs) = hex bs := by
  rw [trimmed, hex, String.toList_ofList, Text.trim_eq_self]
  · exact fun c hc => isBlank_of_mem_hex (List.mem_of_mem_head? hc)
  · exact fun c hc => isBlank_of_mem_hex (List.mem_of_getLast? hc)

theorem sha256Bytes_ne_nil (bytes : ByteArray) : sha256Bytes bytes ≠ [] := by
  simp [sha256Bytes, State.words, bytesOf]

end PatchTrial.Digest

namespace PatchTrial.Report

open FileTree

variable {digest : ByteArray → String} {r : Report} {user : User} {here : Place}
  {runId dir path : String} {t t' : FileTree} {bytes : ByteArray} {text : String}

/-! ### Writing -/

/-- Whether a report's text and digest are kept in two files, and the text may be replaced. -/
def KeptAs (user : User) (runId : String) (here : Place) (dir : String) (bytes : ByteArray)
    (text : String) (t : FileTree) : Prop :=
  ∃ p q, t.Holds user here (pathOf runId dir) p bytes ∧
    t.Holds user here (digestPathOf runId dir) q text.toUTF8 ∧ t.isSameFile p q = false ∧
    ∃ mode number, user.mayWrite mode = true ∧ t.entry? p = some (.file bytes mode number)

/-- What it takes to write a report. -/
theorem of_write (h : r.write digest here dir t user = (.ok path, t')) :
    path = pathOf r.runId dir ∧ ∃ t₁ t₂,
      t.createAll here (Path.join dir r.runId) = (none, t₁) ∧
      t₁.write here (pathOf r.runId dir) r.text.toUTF8 plainMode user = .ok t₂ ∧
      t₂.write here (digestPathOf r.runId dir) (digest r.text.toUTF8).toUTF8 plainMode user =
        .ok t' := by
  unfold write at h
  dsimp only at h
  split at h
  · cases h
  next t₁ hdirectory =>
  split at h
  · cases h
  next t₂ hreport =>
  split at h
  · cases h
  next t₃ hdigest =>
  cases h
  exact ⟨rfl, t₁, t₂, hdirectory, hreport, hdigest⟩

theorem eq_of_toOption {x : Except TrialError String × FileTree}
    (h : x.1.toOption = some path) : x = (.ok path, x.2) := by
  rcases x with ⟨_ | path', t⟩
  · cases h
  · cases h
    rfl

theorem mayWrite_plainMode (user : User) : user.mayWrite plainMode = true := by cases user <;> rfl

theorem mayRead_plainMode (user : User) : user.mayRead plainMode = true := by cases user <;> rfl

/-- The two writes of a report. -/
theorem wrote_of_write (h : r.write digest here dir t user = (.ok path, t')) :
    ∃ t₁ t₂ p q, t'.follow here (pathOf r.runId dir) = .ok p ∧
      t'.follow here (digestPathOf r.runId dir) = .ok q ∧ Wrote user p r.text.toUTF8 t₁ t₂ ∧
      Wrote user q (digest r.text.toUTF8).toUTF8 t₂ t' := by
  obtain ⟨-, t₁, t₂, -, hreport, hdigest⟩ := of_write h
  obtain ⟨p, hp, hwrote⟩ := exists_wrote (mayWrite_plainMode user) hreport
  obtain ⟨q, hq, hwrote'⟩ := exists_wrote (mayWrite_plainMode user) hdigest
  exact ⟨t₁, t₂, p, q, hwrote'.ways.follow (hwrote.ways.follow hp), hwrote'.ways.follow hq, hwrote,
    hwrote'⟩

/-- What a report that was written left on disk, if it is in two files. -/
theorem keptAs_of_write (h : r.write digest here dir t user = (.ok path, t'))
    (hapart : t'.HoldsApart user here (pathOf r.runId dir) (digestPathOf r.runId dir)) :
    KeptAs user r.runId here dir r.text.toUTF8 (digest r.text.toUTF8) t' := by
  obtain ⟨t₁, t₂, p, q, hfollow, hfollow', hwrote, hwrote'⟩ := wrote_of_write h
  obtain ⟨p', q', ⟨content, hp⟩, ⟨content', hq⟩, hother⟩ := holdsApart_iff.mp hapart
  obtain rfl : p' = p := Except.ok.inj (hp.1.symm.trans hfollow)
  obtain rfl : q' = q := Except.ok.inj (hq.1.symm.trans hfollow')
  have hbefore : t₂.isSameFile p' q' = false := by rw [← hwrote'.isSameFile, hother]
  obtain rfl := hq.eq_of_wrote hwrote'
  have hp₂ := (hwrote'.holds_iff hbefore).mp hp
  obtain rfl := hp₂.eq_of_wrote hwrote
  refine ⟨p', q', hp, hq, hother, ?_⟩
  rw [hwrote'.others p' hbefore]
  rcases hwrote.own with hdevice | ⟨mode, hmode, hfile⟩
  · obtain ⟨-, mode, number, hentry, -⟩ := hp₂
    rw [hentry] at hdevice
    cases hdevice
  · exact ⟨mode, _, hmode, hfile⟩

/-- The text of a report that is kept can be replaced, and its digest stays. -/
theorem KeptAs.overwrite (h : KeptAs user runId here dir bytes text t) (bytes' : ByteArray) :
    ∃ t', t.write here (pathOf runId dir) bytes' plainMode user = .ok t' ∧
      KeptAs user runId here dir bytes' text t' := by
  obtain ⟨p, q, hp, hq, hother, mode, number, hmode, hfile⟩ := h
  obtain ⟨t', hwrite, hwrote⟩ := hp.overwrite ⟨mode, number, hmode, hfile⟩ bytes'
  have hother' : t.isSameFile q p = false := by rw [isSameFile_comm, hother]
  refine ⟨t', hwrite, p, q, hp.of_wrote hwrote, (hwrote.holds_iff hother').mpr hq, ?_, mode,
    number, hmode, hwrote.kept _ _ _ hfile⟩
  rw [hwrote.isSameFile, hother]

/-! ### Reading -/

theorem KeptAs.read_eq (h : KeptAs user runId here dir bytes text t) :
    read digest runId here dir t user =
      if trimmed text ≠ digest bytes then .error (.digestMismatch (trimmed text) (digest bytes))
      else match ofBytes? bytes with
        | some r => .ok r
        | none => .error .serialization := by
  obtain ⟨p, q, hp, hq, -⟩ := h
  rw [read, hp.read, hq.readText]
  rfl

/-- A report that is kept with its own digest is read from its text. -/
theorem KeptAs.read_of_hash (hash : ByteArray → List UInt8)
    (h : KeptAs user runId here dir bytes (Digest.hex (hash bytes)) t) :
    read (fun bytes => Digest.hex (hash bytes)) runId here dir t user =
      match ofBytes? bytes with
      | some r => .ok r
      | none => .error .serialization := by
  rw [h.read_eq, Digest.trimmed_hex, if_neg (not_not_intro rfl)]

/-- What it takes to read a report. -/
theorem of_read (h : read digest runId here dir t user = .ok r) :
    ∃ bytes text, t.read here (pathOf runId dir) user = .ok bytes ∧
      t.readText here (digestPathOf runId dir) user = .ok text ∧
      trimmed text = digest bytes ∧ ofBytes? bytes = some r := by
  unfold read at h
  cases hbytes : t.read here (pathOf runId dir) user with
  | error e =>
    rw [hbytes] at h
    cases h
  | ok bytes =>
    cases htext : t.readText here (digestPathOf runId dir) user with
    | error e =>
      rw [hbytes, htext] at h
      cases h
    | ok text =>
      rw [hbytes, htext] at h
      change (if trimmed text ≠ digest bytes then _ else _) = _ at h
      split at h
      · cases h
      next hsame =>
      split at h
      next hreport =>
        cases h
        exact ⟨bytes, text, rfl, rfl, not_not.mp hsame, hreport⟩
      next => cases h

/-- A text without brackets and braces is not that of a report. -/
theorem ofBytes?_eq_none (hbracket : '[' ∉ text.toList) (hbrace : '{' ∉ text.toList) :
    ofBytes? text.toUTF8 = none := by
  have hskip : ∀ c ∈ Json.skipSpace text.toList, c ∈ text.toList := fun _ hc =>
    (List.dropWhile_sublist _).mem hc
  rw [ofBytes?, Text.fromUTF8?_toUTF8]
  change (Json.read? text).bind ofJson? = none
  rw [Option.bind_eq_none_iff]
  intro j hj
  unfold Json.read? at hj
  dsimp only at hj
  split at hj
  next j' rest hvalue =>
    rw [Json.readValue?] at hvalue
    dsimp only at hvalue
    have hj' : j'.record? ["run_id", "started_at", "finished_at", "language", "settings",
        "strategy", "evaluations", "skipped", "cancelled", "tree_dirty"] = none := by
      split at hvalue
      next heq => exact absurd (hskip _ (heq ▸ List.mem_cons_self)) hbracket
      next heq => exact absurd (hskip _ (heq ▸ List.mem_cons_self)) hbrace
      next => exact Json.record?_of_readScalar? hvalue
    split at hj
    · cases hj
      rw [ofJson?, hj']
      rfl
    · cases hj
  next => cases hj

/-- A digest is not the text of a report. -/
theorem ofBytes?_hex (bs : List UInt8) : ofBytes? (Digest.hex bs).toUTF8 = none := by
  have hdigits : ∀ c ∈ (Digest.hex bs).toList, c ≠ '[' ∧ c ≠ '{' := by
    intro c hc
    rw [Digest.hex, String.toList_ofList, List.mem_flatMap] at hc
    obtain ⟨b, -, hc⟩ := hc
    have hb := b.toNat_lt
    rw [Digest.hexByte, List.mem_cons, List.mem_singleton] at hc
    have hplain : ∀ n < 16, Nat.digitChar n ≠ '[' ∧ Nat.digitChar n ≠ '{' := by decide
    rcases hc with rfl | rfl
    · exact hplain _ (by omega)
    · exact hplain _ (by omega)
  exact ofBytes?_eq_none (fun h => (hdigits _ h).1 rfl) fun h => (hdigits _ h).2 rfl

/-- A report that was written is read back from two files only. -/
theorem holdsApart_of_read {hash : ByteArray → List UInt8} (hhash : ∀ bytes, hash bytes ≠ [])
    {r r' : Report}
    (hwrite : r.write (fun bytes => Digest.hex (hash bytes)) here dir t user = (.ok path, t'))
    (hread : read (fun bytes => Digest.hex (hash bytes)) r.runId here dir t' user = .ok r') :
    t'.HoldsApart user here (pathOf r.runId dir) (digestPathOf r.runId dir) := by
  obtain ⟨t₁, t₂, p, q, hfollow, hfollow', hwrote, hwrote'⟩ := wrote_of_write hwrite
  obtain ⟨bytes, text, hreport, htext, hsame, hback⟩ := of_read hread
  obtain ⟨bytes', hdigest, hutf8⟩ := of_readText htext
  have hp : t'.Holds user here (pathOf r.runId dir) p bytes := by
    refine (holds_of_read hfollow hreport).resolve_right ?_
    rintro rfl
    have hnone : ofBytes? .empty = none := ofBytes?_hex []
    rw [hnone] at hback
    cases hback
  have hq : t'.Holds user here (digestPathOf r.runId dir) q bytes' := by
    refine (holds_of_read hfollow' hdigest).resolve_right ?_
    rintro rfl
    have hempty : text = "" := by
      have htext' := Text.fromUTF8?_toUTF8 ""
      exact Option.some.inj (hutf8.symm.trans htext')
    subst hempty
    have hnone : Digest.hex [] = Digest.hex (hash bytes) := hsame
    exact hhash bytes (Digest.hex_injective hnone).symm
  refine holdsApart_iff.mpr
    ⟨p, q, ⟨bytes, hp⟩, ⟨bytes', hq⟩, Bool.eq_false_iff.mpr fun hone => ?_⟩
  rw [hwrote'.isSameFile] at hone
  have hcontents : bytes = bytes' := by
    obtain ⟨-, mode, number, hfile, -⟩ := hp
    obtain ⟨-, mode', number', hfile', -⟩ := hq
    rw [hwrote'.names p hone, hfile'] at hfile
    cases hfile
    rfl
  rw [hcontents, hq.eq_of_wrote hwrote', ofBytes?_hex] at hback
  cases hback

/-- In a tree without links, a report that was written is in two files. -/
theorem holdsApart_of_isPlain (hplain : t.IsPlain user)
    (hwrite : r.write digest here dir t user = (.ok path, t')) :
    t'.HoldsApart user here (pathOf r.runId dir) (digestPathOf r.runId dir) := by
  obtain ⟨-, t₁, t₂, hdirectory, hreport, hdigest⟩ := of_write hwrite
  have hplain₁ : t₁.IsPlain user := by
    have hmade : (t.createAll here (Path.join dir r.runId)).2.IsPlain user :=
      hplain.makeDirectories _ _
    rwa [hdirectory] at hmade
  obtain ⟨hplain₂, p, hp, hways, mode, hfile, hmode⟩ :=
    hplain₁.write (mayRead_plainMode user) hreport
  obtain ⟨hplain', q, hq, hways', mode', hfile', hmode'⟩ :=
    hplain₂.write (mayRead_plainMode user) hdigest
  obtain ⟨q', hq', hwrote⟩ := exists_wrote (mayWrite_plainMode user) hdigest
  obtain rfl : q = q' := Except.ok.inj (hq.symm.trans hq')
  have hne : p ≠ q := by
    rintro rfl
    have hname := hplain₁.getLast?_of_follow rfl (getLast?_parts_join (by decide)) hp
    have hname' := hplain₂.getLast?_of_follow rfl (getLast?_parts_join (by decide)) hq
    rw [hname] at hname'
    exact absurd (Option.some.inj hname') (by decide)
  have hother : t₂.isSameFile p q = false := by rw [hplain₂.isSameFile, decide_eq_false hne]
  have hfile₂ := (hwrote.others p hother).trans hfile
  exact holdsApart_iff.mpr ⟨p, q,
    ⟨_, hways'.follow (hways.follow hp), mode, none, hfile₂, hmode⟩,
    ⟨_, hways'.follow hq, mode', none, hfile', hmode'⟩, by rw [hwrote.isSameFile, hother]⟩

/-- For every hash of the bytes of a report, for every user, and whatever was on disk before: a
report that was written, all of whose finite numbers are read back from their digits, is read back
as it was if its text and its digest are in two files that the user may read. They are, if there
was nothing on disk but directories and files with one name each that the user may read. If the
text is then replaced by bytes with another hash, reading fails with the two digests. -/
theorem read_write (hash : ByteArray → List UInt8) {r : Report} (hr : r.WellFormed)
    (hdoubles : ∀ x ∈ r.doubles, x.isFinite = true → Json.DoubleReadsBack x)
    (hsingles : ∀ x ∈ r.singles, x.isFinite = true → Json.SingleReadsBack x) {user : User}
    {here : Place} {dir path : String} {t t' : FileTree}
    (hwrite : r.write (fun bytes => Digest.hex (hash bytes)) here dir t user = (.ok path, t')) :
    (t.IsPlain user →
      t'.HoldsApart user here (pathOf r.runId dir) (digestPathOf r.runId dir)) ∧
    (t'.HoldsApart user here (pathOf r.runId dir) (digestPathOf r.runId dir) →
      read (fun bytes => Digest.hex (hash bytes)) r.runId here dir t' user = .ok r ∧
      ∀ bytes, hash bytes ≠ hash r.text.toUTF8 →
        ∃ t'', t'.write here path bytes plainMode user = .ok t'' ∧
          read (fun bytes => Digest.hex (hash bytes)) r.runId here dir t'' user =
            .error (.digestMismatch (Digest.hex (hash r.text.toUTF8))
              (Digest.hex (hash bytes)))) := by
  refine ⟨fun hplain => holdsApart_of_isPlain hplain hwrite, fun hapart => ?_⟩
  have hkept := keptAs_of_write hwrite hapart
  obtain ⟨rfl, -⟩ := of_write hwrite
  constructor
  · have hback : ofBytes? r.text.toUTF8 = some r :=
      ofBytes?_text hr (fun x hx => hdoubles x hx (hr.doubles x hx))
        fun x hx => hsingles x hx (hr.singles x hx)
    rw [hkept.read_of_hash hash, hback]
  · intro bytes hother
    obtain ⟨t'', hreplaced, hkept'⟩ := hkept.overwrite bytes
    refine ⟨t'', hreplaced, ?_⟩
    have hdigests : Digest.hex (hash r.text.toUTF8) ≠ Digest.hex (hash bytes) :=
      fun heq => hother (Digest.hex_injective heq).symm
    rw [hkept'.read_eq, Digest.trimmed_hex, if_pos hdigests]

/-- A report with a candidate that was measured and one that was turned away, and a plan with
environments and nested metadata. It is written where there is nothing yet, and over an earlier
report that has a second name and is in a directory that a link leads to. -/
theorem read_write_measured :
    let plan : Plan :=
      ⟨2, .adaptive, { PerStep.const none with test := some "cargo test" },
        { PerStep.const none with test := some (SortedMap.ofList [("B", "\"\n\t"), ("A", "é")]) },
        .object [("limits", .array [.null, Json.double 0.5, Json.int (-3)]),
          ("remediations", Json.strings ["oom"])]⟩
    let run : StepRun := ⟨"bench", "make bench", -1, 90, "latency: 90.5 ms", "", false⟩
    let strategy : Baseline :=
      ⟨⟨[run], true, none, some ⟨"latency", 100, some "ms", true⟩⟩, [plan],
        [⟨"test", .oom, "", "killed"⟩], .succeeded⟩
    let kept : Evaluation :=
      ⟨"a", .ofRun "a" ⟨[run], true, none, some ⟨"latency", 90.5, none, true⟩⟩,
        ⟨true, .high, 0.25, ["faster"],
          some ⟨"latency", 100, 90.5, -9.5, -0.095, .improved, true⟩⟩⟩
    let refused : Evaluation :=
      ⟨"b", .rejected "b" (.constraint ⟨.maxLines, "too long"⟩), ⟨false, .low, 0.5, [], none⟩⟩
    let r : Report :=
      { runId := "run-1", startedAt := ⟨2024, 2, 29, 23, 59, 60, 5000000⟩
        finishedAt := ⟨2024, 3, 1, 0, 0, 7, 123456789⟩, language := .unknown
        settings := .clamped .adaptive 9, strategy := strategy, evaluations := [kept, refused]
        skipped := ["c"], cancelled := false, treeDirty := true }
    let old : FileTree.Entry := .file "old".toUTF8 0o600 (some 1)
    let t : FileTree := ⟨[(["kept"], .directory), (["kept", "run-1"], .directory),
      (["kept", "run-1", "report.json"], old), (["old.json"], old), (["reports"], .link "kept")]⟩
    (∃ t', r.write Digest.sha256 [] "reports" .empty .owner =
        (.ok "reports/run-1/report.json", t') ∧
      t'.HoldsApart .owner [] (pathOf r.runId "reports") (digestPathOf r.runId "reports") ∧
      read Digest.sha256 "run-1" [] "reports" t' .owner = .ok r) ∧
    (∃ t', r.write Digest.sha256 [] "reports" t .owner = (.ok "reports/run-1/report.json", t') ∧
      read Digest.sha256 "run-1" [] "reports" t' .owner = .ok r) ∧
    let whole (bytes : ByteArray) : String := Digest.hex bytes.data.toList
    ∃ t' t'', r.write whole [] "reports" t .owner = (.ok "reports/run-1/report.json", t') ∧
      t'.write [] "reports/run-1/report.json" "\x7b\x7d".toUTF8 plainMode .owner = .ok t'' ∧
        read whole "run-1" [] "reports" t'' .owner =
          .error (.digestMismatch (whole r.text.toUTF8) (whole "\x7b\x7d".toUTF8)) := by
  intro plan run strategy kept refused r old t
  have hr : r.WellFormed := {
    doubles := by decide +kernel
    singles := by decide +kernel
    started := ⟨by decide, by decide, by decide, by decide⟩
    finished := ⟨by decide, by decide, by decide, by decide⟩
    free := by
      intro p hp
      rw [List.mem_singleton.mp hp]
      refine ⟨rfl, ?_⟩
      simp [plan, Json.leaves, Json.itemLeaves, Json.fieldLeaves, Json.IsFreeLeaf, Json.strings,
        Json.int, Json.double]
    nesting := by decide +kernel }
  have hdoubles : ∀ x ∈ r.doubles, x.isFinite = true → Json.DoubleReadsBack x := by decide +kernel
  have hsingles : ∀ x ∈ r.singles, x.isFinite = true → Json.SingleReadsBack x := by decide +kernel
  refine ⟨?_, ?_, ?_⟩
  · have h : r.write Digest.sha256 [] "reports" .empty .owner =
        (.ok "reports/run-1/report.json", _) := eq_of_toOption (by decide +kernel)
    obtain ⟨hapart, hread⟩ := read_write Digest.sha256Bytes hr hdoubles hsingles h
    have hapart := hapart (isPlain_empty .owner)
    exact ⟨_, h, hapart, (hread hapart).1⟩
  · have h : r.write Digest.sha256 [] "reports" t .owner = (.ok "reports/run-1/report.json", _) :=
      eq_of_toOption (by decide +kernel)
    obtain ⟨-, hread⟩ := read_write Digest.sha256Bytes hr hdoubles hsingles h
    exact ⟨_, h, (hread (by decide +kernel)).1⟩
  · intro whole
    have h : r.write whole [] "reports" t .owner = (.ok "reports/run-1/report.json", _) :=
      eq_of_toOption (by decide +kernel)
    have hother : ("\x7b\x7d".toUTF8).data.toList ≠ r.text.toUTF8.data.toList := by
      intro heq
      have hback : ofBytes? r.text.toUTF8 = some r :=
        ofBytes?_text hr (fun x hx => hdoubles x hx (hr.doubles x hx))
          fun x hx => hsingles x hx (hr.singles x hx)
      have hnone : (ofBytes? "\x7b\x7d".toUTF8).isNone = true := by decide +kernel
      rw [ByteArray.ext (Array.ext' heq), hback] at hnone
      cases hnone
    obtain ⟨-, hread⟩ := read_write (fun bytes => bytes.data.toList) hr hdoubles hsingles h
    obtain ⟨t'', hreplaced, hread⟩ := (hread (by decide +kernel)).2 _ hother
    exact ⟨_, t'', h, hreplaced, hread⟩

/-- Reports that were written and are not read back: the digest is under a name that links to the
text, the text is in a file to which its owner may only write, and a latency is not read back from
its digits. -/
theorem read_write_lossy :
    let report (latency : Float) : Report :=
      { runId := "run-1", startedAt := ⟨2024, 1, 2, 3, 4, 5, 0⟩
        finishedAt := ⟨2024, 1, 2, 3, 4, 6, 0⟩, language := .go, settings := .clamped .strict 1
        strategy := ⟨⟨[], true, none, some ⟨"latency", latency, none, true⟩⟩, [], [], .succeeded⟩
        evaluations := [], skipped := [], cancelled := false, treeDirty := false }
    let directories : List (Place × FileTree.Entry) :=
      [(["reports"], .directory), (["reports", "run-1"], .directory)]
    let linked : FileTree :=
      ⟨directories ++ [(["reports", "run-1", "report.digest"], .link "report.json")]⟩
    let closed : FileTree :=
      ⟨directories ++ [(["reports", "run-1", "report.json"], .file .empty 0o200)]⟩
    (report 90.5).WellFormed ∧ (report 9.027700000000001).WellFormed ∧
    (∃ t', (report 90.5).write Digest.sha256 [] "reports" linked =
        (.ok "reports/run-1/report.json", t') ∧
      ∀ r, read Digest.sha256 "run-1" [] "reports" t' ≠ .ok r) ∧
    (∃ t', (report 90.5).write Digest.sha256 [] "reports" closed .owner =
        (.ok "reports/run-1/report.json", t') ∧
      ∀ r, read Digest.sha256 "run-1" [] "reports" t' .owner ≠ .ok r) ∧
    ∃ t' r, (report 9.027700000000001).write Digest.sha256 [] "reports" .empty =
        (.ok "reports/run-1/report.json", t') ∧
      read Digest.sha256 "run-1" [] "reports" t' = .ok r ∧ r ≠ report 9.027700000000001 := by
  intro report directories linked closed
  have hwellFormed : ∀ x : Float, x.isFinite = true → (report x).WellFormed := fun x hx => {
    doubles := fun y hy => by rwa [List.mem_singleton.mp hy]
    singles := fun y hy => nomatch hy
    started := ⟨by simp [report], by simp [report], by rfl, by simp [report]⟩
    finished := ⟨by simp [report], by simp [report], by rfl, by simp [report]⟩
    free := fun p hp => nomatch hp
    nesting := fun p hp => nomatch hp }
  refine ⟨hwellFormed _ (by decide +kernel), hwellFormed _ (by decide +kernel), ?_, ?_, ?_⟩
  · have hwrite : (report 90.5).write Digest.sha256 [] "reports" linked .root =
        (.ok "reports/run-1/report.json", _) := eq_of_toOption (by decide +kernel)
    refine ⟨_, hwrite, fun r hread => ?_⟩
    have hapart := holdsApart_of_read Digest.sha256Bytes_ne_nil hwrite hread
    revert hapart
    decide +kernel
  · have hwrite : (report 90.5).write Digest.sha256 [] "reports" closed .owner =
        (.ok "reports/run-1/report.json", _) := eq_of_toOption (by decide +kernel)
    refine ⟨_, hwrite, fun r hread => ?_⟩
    have hapart := holdsApart_of_read Digest.sha256Bytes_ne_nil hwrite hread
    revert hapart
    decide +kernel
  · have hwrite : (report 9.027700000000001).write Digest.sha256 [] "reports" .empty .root =
        (.ok "reports/run-1/report.json", _) := eq_of_toOption (by decide +kernel)
    have hkept := keptAs_of_write hwrite (by decide +kernel)
    have hreadable : (Json.Number.double 9.027700000000001).IsReadable := by
      unfold Json.Number.IsReadable
      decide +kernel
    have hfits : (report 9.027700000000001).toJson.Fits Json.maxDepth := by
      simp [report, toJson, Baseline.toJson, PipelineRun.toJson, Measurement.toJson,
        Settings.toJson, Mode.toJson, StopReason.toJson, Language.toJson, Json.Fits, Json.ItemsFit,
        Json.FieldsFit, Json.maxDepth, Json.double, Json.orNull, Json.strings, hreadable]
    obtain ⟨r, hback, hlatency⟩ : ∃ r, ofJson? (report 9.027700000000001).toJson.reread = some r ∧
        r.doubles = [9.0277] := by
      rw [← Option.map_eq_some_iff]
      decide +kernel
    refine ⟨_, r, hwrite, ?_, ?_⟩
    · have hread := hkept.read_of_hash Digest.sha256Bytes
      rwa [ofBytes?_eq_reread hfits, hback] at hread
    · rintro rfl
      revert hlatency
      decide +kernel

end PatchTrial.Report
