import Mathlib.Data.List.DropRight
import PatchTrial.Proofs.JsonScalar

/-!
# Reading back JSON texts

A value that is written over several lines is read back with all its parts in place. Only its
numbers may come back changed: one of single width is read as a double, and a double as whatever its
digits are read as. So the value that is read is the written one with each number read by itself.

Main statement: `read?_pretty`.
-/
namespace PatchTrial.Json

/-! ### What is read from a value's text -/

/-- The number that the text of a number is read as. -/
def Number.reread (n : Number) : Number :=
  match readNumber? n.text with
  | some (some m, []) => m
  | _ => n

/-- Whether the text of a number is read as a number. -/
def Number.IsReadable (n : Number) : Prop := readNumber? n.text = some (some n.reread, [])

mutual
/-- A value with each number read from its own text. -/
def reread : Json → Json
  | .number n => .number n.reread
  | .array items => .array (rereadItems items)
  | .object fields => .object (rereadFields fields)
  | j => j

def rereadItems : List Json → List Json
  | [] => []
  | j :: js => reread j :: rereadItems js

def rereadFields : List (String × Json) → List (String × Json)
  | [] => []
  | (k, j) :: rest => (k, reread j) :: rereadFields rest
end

mutual
/-- Whether all parts of a value can be written and read, of which no more than `depth` arrays and
objects are within one another. -/
def Fits (depth : Nat) : Json → Prop
  | .unusable => False
  | .number n => n.IsReadable
  | .array items => 0 < depth ∧ ItemsFit (depth - 1) items
  | .object fields => 0 < depth ∧ FieldsFit (depth - 1) fields
  | _ => True

def ItemsFit (depth : Nat) : List Json → Prop
  | [] => True
  | j :: js => Fits depth j ∧ ItemsFit depth js

def FieldsFit (depth : Nat) : List (String × Json) → Prop
  | [] => True
  | (_, j) :: rest => Fits depth j ∧ FieldsFit depth rest
end

/-! ### Blanks -/

variable {cs rest : List Char} {fuel depth : Nat}

theorem skipSpace_cons {c : Char} (h : isSpace c = false) (cs : List Char) :
    skipSpace (c :: cs) = c :: cs := List.dropWhile_cons_of_neg (by simp [h])

theorem skipSpace_skipSpace (cs : List Char) : skipSpace (skipSpace cs) = skipSpace cs :=
  List.dropWhile_idempotent _ _

theorem skipSpace_lineBreak (level : Nat) (cs : List Char) :
    skipSpace (lineBreak level ++ cs) = skipSpace cs := by
  refine List.dropWhile_append_of_pos fun c hc => ?_
  rcases List.mem_cons.mp hc with rfl | hc
  · rfl
  · rw [List.eq_of_mem_replicate hc]
    rfl

theorem readValue?_skipSpace (cs : List Char) :
    readValue? fuel depth (skipSpace cs) = readValue? fuel depth cs := by
  cases fuel with
  | zero => rfl
  | succ fuel => simp only [readValue?, skipSpace_skipSpace]

theorem readItems?_skipSpace (cs : List Char) :
    readItems? fuel depth (skipSpace cs) = readItems? fuel depth cs := by
  cases fuel with
  | zero => rfl
  | succ fuel => simp only [readItems?, readValue?_skipSpace]

theorem readFields?_skipSpace (cs : List Char) :
    readFields? fuel depth (skipSpace cs) = readFields? fuel depth cs := by
  cases fuel with
  | zero => rfl
  | succ fuel => simp only [readFields?, skipSpace_skipSpace]

/-- Blanks in front of a value are passed over. -/
theorem readValue?_congr {cs cs' : List Char} (h : skipSpace cs = skipSpace cs') :
    readValue? fuel depth cs = readValue? fuel depth cs' := by
  rw [← readValue?_skipSpace cs, h, readValue?_skipSpace]

/-! ### Brackets -/

theorem readItems?_close : readItems? fuel depth (']' :: rest) = none := by
  rcases fuel with - | - | fuel <;> rfl

theorem readFields?_close : readFields? fuel depth ('}' :: rest) = none := by
  cases fuel <;> rfl

/-- What stands between brackets, if there is something. -/
theorem readValue?_array {items : List Json} (h : readItems? fuel depth cs = some (items, rest)) :
    readValue? (fuel + 1) (depth + 1) ('[' :: cs) = some (.array items, rest) := by
  have hopen : skipSpace ('[' :: cs) = '[' :: cs := skipSpace_cons rfl cs
  simp only [readValue?, hopen, Nat.succ_ne_zero, if_false, Nat.add_sub_cancel]
  split
  next r heq =>
    rw [← readItems?_skipSpace, heq, readItems?_close] at h
    cases h
  next =>
    rw [readItems?_skipSpace, h]
    rfl

/-- Every item of a list is read back, if each one is. -/
theorem mapM_map_eq_some {α β : Type} {write : α → β} {read : β → Option α} {xs : List α}
    (h : ∀ x ∈ xs, read (write x) = some x) : (xs.map write).mapM read = some xs := by
  induction xs with
  | nil => rfl
  | cons x xs ih =>
    rw [List.forall_mem_cons] at h
    rw [List.map_cons, List.mapM_cons, h.1, ih h.2]
    rfl

theorem ofFields_some (fields : List (String × Json)) :
    ofFields (fields.map fun f => (some f.1, f.2)) = .object fields := by
  have hkeys : (fields.map fun f => (some f.1, f.2)).mapM
      (fun f : Option String × Json => f.1.map (·, f.2)) = some fields :=
    mapM_map_eq_some fun _ _ => rfl
  rw [ofFields, hkeys]
  rfl

theorem readValue?_object {fields : List (String × Json)}
    (h : readFields? fuel depth cs = some (fields.map fun f => (some f.1, f.2), rest)) :
    readValue? (fuel + 1) (depth + 1) ('{' :: cs) = some (.object fields, rest) := by
  have hopen : skipSpace ('{' :: cs) = '{' :: cs := skipSpace_cons rfl cs
  simp only [readValue?, hopen, Nat.succ_ne_zero, if_false, Nat.add_sub_cancel]
  split
  next r heq =>
    rw [← readFields?_skipSpace, heq, readFields?_close] at h
    cases h
  next =>
    rw [readFields?_skipSpace, h, Option.map_some]
    dsimp only
    rw [ofFields_some]

/-! ### Values without parts -/

theorem readValue?_of_readScalar? {c : Char} {j : Json} (hspace : isSpace c = false)
    (hbracket : c ≠ '[') (hbrace : c ≠ '{') (h : readScalar? (c :: cs) = some (j, rest)) :
    readValue? (fuel + 1) depth (c :: cs) = some (j, rest) := by
  rw [readValue?, skipSpace_cons hspace]
  split
  next heq => exact absurd (List.cons.inj heq).1 hbracket
  next heq => exact absurd (List.cons.inj heq).1 hbrace
  next => exact h

theorem exists_cons_of_digits? {r : List Char} {ds : List Char} (h : digits? cs = some (ds, r)) :
    ∃ c cs', cs = c :: cs' ∧ isDecimalDigit c = true := by
  cases cs with
  | nil => cases h
  | cons c cs =>
    cases hc : isDecimalDigit c with
    | true => exact ⟨c, cs, rfl, hc⟩
    | false =>
      rw [digits?, List.span_eq_takeWhile_dropWhile, List.takeWhile_cons_of_neg (by simp [hc])] at h
      cases h

/-- A number starts with a digit or a minus sign. -/
theorem exists_cons_of_readNumber? {n : Option Number} (h : readNumber? cs = some (n, rest)) :
    ∃ c cs', cs = c :: cs' ∧ (isDecimalDigit c = true ∨ c = '-') := by
  unfold readNumber? at h
  split at h
  next cs => exact ⟨'-', cs, rfl, .inr rfl⟩
  next =>
    obtain ⟨⟨ds, r⟩, hwhole, -⟩ := Option.bind_eq_some_iff.mp h
    obtain ⟨⟨ds', r'⟩, hdigits, -⟩ := Option.bind_eq_some_iff.mp hwhole
    obtain ⟨c, cs', hcs, hc⟩ := exists_cons_of_digits? hdigits
    exact ⟨c, cs', hcs, .inl hc⟩

theorem ne_of_isDecimalDigit {c d : Char} (h : isDecimalDigit c = true ∨ c = '-')
    (hd : isDecimalDigit d = false) (hminus : d ≠ '-') : c ≠ d := by
  rintro rfl
  rcases h with h | h
  · exact Bool.false_ne_true (hd.symm.trans h)
  · exact hminus h

theorem readScalar?_number {n : Number} (h : readNumber? cs = some (some n, rest)) :
    readScalar? cs = some (.number n, rest) := by
  obtain ⟨c, cs, rfl, hc⟩ := exists_cons_of_readNumber? h
  rw [readScalar?, h]
  · rfl
  all_goals exact fun _ heq => ne_of_isDecimalDigit hc rfl (by decide) (List.cons.inj heq).1

/-- A number in front of what ends it. -/
theorem readValue?_number {n : Number} (h : n.IsReadable) (hrest : EndsNumber rest) :
    readValue? (fuel + 1) depth (n.text ++ rest) = some (.number n.reread, rest) := by
  have hread := readNumber?_append hrest h
  obtain ⟨c, cs, hcs, hc⟩ := exists_cons_of_readNumber? hread
  rw [List.nil_append] at hread
  rw [hcs] at hread ⊢
  have hspace : isSpace c = false := by
    simp only [isSpace, Bool.or_eq_false_iff, beq_eq_false_iff_ne]
    refine ⟨⟨⟨?_, ?_⟩, ?_⟩, ?_⟩ <;> exact ne_of_isDecimalDigit hc rfl (by decide)
  exact readValue?_of_readScalar? hspace (ne_of_isDecimalDigit hc rfl (by decide))
    (ne_of_isDecimalDigit hc rfl (by decide)) (readScalar?_number hread)

theorem readValue?_quoted (s : String) :
    readValue? (fuel + 1) depth (quoted s ++ rest) = some (.string s, rest) := by
  refine readValue?_of_readScalar? rfl (by decide) (by decide) ?_
  change (readString? (quoted s ++ rest)).map _ = _
  rw [readString?_quoted]
  rfl

/-! ### All values -/

theorem skipSpace_lineBreak_cons {c : Char} (h : isSpace c = false) (level : Nat) (cs : List Char) :
    skipSpace (lineBreak level ++ c :: cs) = c :: cs := by
  rw [skipSpace_lineBreak, skipSpace_cons h]

theorem skipSpace_quoted (s : String) (cs : List Char) :
    skipSpace (quoted s ++ cs) = quoted s ++ cs := skipSpace_cons rfl _

theorem endsNumber_lineBreak (level : Nat) (cs : List Char) : EndsNumber (lineBreak level ++ cs) :=
  endsNumber_cons (.inr rfl) _

theorem skipSpace_space (cs : List Char) : skipSpace (' ' :: cs) = skipSpace cs :=
  List.dropWhile_cons_of_pos rfl

/-- The last item. -/
theorem readItems?_last {j : Json} {up : Nat}
    (h : readValue? fuel depth cs = some (j, lineBreak up ++ ']' :: rest)) :
    readItems? (fuel + 1) depth cs = some ([j], rest) := by
  rw [readItems?, h]
  dsimp only
  rw [skipSpace_lineBreak_cons rfl]
  rfl

theorem readItems?_cons {cs' : List Char} {j : Json} {js : List Json}
    (h : readValue? fuel depth cs = some (j, ',' :: cs'))
    (hrest : readItems? fuel depth cs' = some (js, rest)) :
    readItems? (fuel + 1) depth cs = some (j :: js, rest) := by
  rw [readItems?, h]
  change (readItems? fuel depth cs').map _ = _
  rw [hrest]
  rfl

/-- The last field. -/
theorem readFields?_last {k : String} {j : Json} {up : Nat}
    (h : readValue? fuel depth cs = some (j, lineBreak up ++ '}' :: rest)) :
    readFields? (fuel + 1) depth (quoted k ++ ':' :: ' ' :: cs) = some ([(some k, j)], rest) := by
  have hcolon : skipSpace (':' :: ' ' :: cs) = ':' :: ' ' :: cs := skipSpace_cons rfl _
  have hclose : skipSpace (lineBreak up ++ '}' :: rest) = '}' :: rest :=
    skipSpace_lineBreak_cons rfl up rest
  simp only [readFields?, skipSpace_quoted, readString?_quoted, hcolon,
    readValue?_congr (skipSpace_space cs), h, hclose]

theorem readFields?_cons {cs' : List Char} {k : String} {j : Json}
    {fs : List (Option String × Json)} (h : readValue? fuel depth cs = some (j, ',' :: cs'))
    (hrest : readFields? fuel depth cs' = some (fs, rest)) :
    readFields? (fuel + 1) depth (quoted k ++ ':' :: ' ' :: cs) =
      some ((some k, j) :: fs, rest) := by
  have hcolon : skipSpace (':' :: ' ' :: cs) = ':' :: ' ' :: cs := skipSpace_cons rfl _
  have hcomma : skipSpace (',' :: cs') = ',' :: cs' := skipSpace_cons rfl cs'
  simp only [readFields?, skipSpace_quoted, readString?_quoted, hcolon,
    readValue?_congr (skipSpace_space cs), h, hcomma, hrest, Option.map_some]

mutual
/-- A value is read from its text with any fuel of more than two units for each character. -/
theorem readValue?_pretty : ∀ (j : Json) (level depth fuel : Nat) (rest : List Char),
    j.Fits depth → EndsNumber rest → 2 * (prettyChars level j).length < fuel →
      readValue? fuel depth (prettyChars level j ++ rest) = some (j.reread, rest)
  | _, _, _, 0, _, _, _, hfuel => absurd hfuel (Nat.not_lt_zero _)
  | .unusable, _, _, _, _, h, _, _ => h.elim
  | .null, _, _, fuel + 1, _, _, _, _ => readValue?_of_readScalar? rfl (by decide) (by decide) rfl
  | .bool true, _, _, fuel + 1, _, _, _, _ =>
    readValue?_of_readScalar? rfl (by decide) (by decide) rfl
  | .bool false, _, _, fuel + 1, _, _, _, _ =>
    readValue?_of_readScalar? rfl (by decide) (by decide) rfl
  | .string s, _, _, fuel + 1, _, _, _, _ => readValue?_quoted s
  | .number n, _, _, fuel + 1, _, h, hrest, _ => readValue?_number h hrest
  | .array _, _, 0, _, _, h, _, _ => absurd h.1 (Nat.lt_irrefl 0)
  | .array [], _, depth + 1, fuel + 1, _, _, _, _ => rfl
  | .array (j :: js), level, depth + 1, fuel + 1, rest, h, _, hfuel => by
    have htext : prettyChars level (.array (j :: js)) ++ rest =
        '[' :: (prettyItems (level + 1) (j :: js) ++ (lineBreak level ++ ']' :: rest)) := by
      simp only [prettyChars, List.cons_append, List.append_assoc, List.nil_append]
    have hshort : 2 * (prettyItems (level + 1) (j :: js)).length < fuel := by
      simp only [prettyChars, List.length_cons, List.length_append] at hfuel
      omega
    rw [htext]
    exact readValue?_array (readItems?_pretty (j :: js) (level + 1) level depth fuel rest
      (List.cons_ne_nil j js) h.2 hshort)
  | .object _, _, 0, _, _, h, _, _ => absurd h.1 (Nat.lt_irrefl 0)
  | .object [], _, depth + 1, fuel + 1, _, _, _, _ => rfl
  | .object (f :: fs), level, depth + 1, fuel + 1, rest, h, _, hfuel => by
    have htext : prettyChars level (.object (f :: fs)) ++ rest =
        '{' :: (prettyFields (level + 1) (f :: fs) ++ (lineBreak level ++ '}' :: rest)) := by
      simp only [prettyChars, List.cons_append, List.append_assoc, List.nil_append]
    have hshort : 2 * (prettyFields (level + 1) (f :: fs)).length < fuel := by
      simp only [prettyChars, List.length_cons, List.length_append] at hfuel
      omega
    rw [htext]
    exact readValue?_object (readFields?_pretty (f :: fs) (level + 1) level depth fuel rest
      (List.cons_ne_nil f fs) h.2 hshort)

/-- Items are read up to the bracket, whatever the level at which it stands. -/
theorem readItems?_pretty : ∀ (js : List Json) (level up depth fuel : Nat) (rest : List Char),
    js ≠ [] → ItemsFit depth js → 2 * (prettyItems level js).length < fuel →
      readItems? fuel depth (prettyItems level js ++ (lineBreak up ++ ']' :: rest)) =
        some (rereadItems js, rest)
  | _, _, _, _, 0, _, _, _, hfuel => absurd hfuel (Nat.not_lt_zero _)
  | [], _, _, _, _, _, h, _, _ => absurd rfl h
  | [j], level, up, depth, fuel + 1, rest, _, h, hfuel => by
    have hshort : 2 * (prettyChars level j).length < fuel := by
      simp only [prettyItems, lineBreak, List.length_cons, List.length_append] at hfuel
      omega
    rw [← readItems?_skipSpace, prettyItems, List.append_assoc, skipSpace_lineBreak,
      readItems?_skipSpace]
    exact readItems?_last (readValue?_pretty j level depth fuel _ h.1
      (endsNumber_lineBreak up _) hshort)
  | j :: j' :: js, level, up, depth, fuel + 1, rest, _, h, hfuel => by
    have hitems : prettyItems level (j :: j' :: js) =
        lineBreak level ++ prettyChars level j ++ ',' :: prettyItems level (j' :: js) := rfl
    have hshort : 2 * (prettyChars level j).length < fuel ∧
        2 * (prettyItems level (j' :: js)).length < fuel := by
      simp only [hitems, lineBreak, List.length_cons, List.length_append] at hfuel
      omega
    rw [← readItems?_skipSpace, hitems, List.append_assoc, List.append_assoc, skipSpace_lineBreak,
      readItems?_skipSpace, List.cons_append]
    exact readItems?_cons
      (readValue?_pretty j level depth fuel _ h.1 (endsNumber_cons (.inl rfl) _) hshort.1)
      (readItems?_pretty (j' :: js) level up depth fuel rest (List.cons_ne_nil j' js) h.2 hshort.2)

/-- Fields are read up to the brace, whatever the level at which it stands. -/
theorem readFields?_pretty : ∀ (fs : List (String × Json)) (level up depth fuel : Nat)
    (rest : List Char), fs ≠ [] → FieldsFit depth fs → 2 * (prettyFields level fs).length < fuel →
      readFields? fuel depth (prettyFields level fs ++ (lineBreak up ++ '}' :: rest)) =
        some ((rereadFields fs).map fun f => (some f.1, f.2), rest)
  | _, _, _, _, 0, _, _, _, hfuel => absurd hfuel (Nat.not_lt_zero _)
  | [], _, _, _, _, _, h, _, _ => absurd rfl h
  | [(k, j)], level, up, depth, fuel + 1, rest, _, h, hfuel => by
    have hshort : 2 * (prettyChars level j).length < fuel := by
      simp only [prettyFields, lineBreak, List.length_cons, List.length_append] at hfuel
      omega
    rw [← readFields?_skipSpace, prettyFields]
    simp only [List.append_assoc, List.cons_append]
    rw [skipSpace_lineBreak, readFields?_skipSpace]
    exact readFields?_last (readValue?_pretty j level depth fuel _ h.1
      (endsNumber_lineBreak up _) hshort)
  | (k, j) :: f :: fs, level, up, depth, fuel + 1, rest, _, h, hfuel => by
    have hfields : prettyFields level ((k, j) :: f :: fs) =
        lineBreak level ++ quoted k ++ ':' :: ' ' :: prettyChars level j ++
          ',' :: prettyFields level (f :: fs) := rfl
    have hshort : 2 * (prettyChars level j).length < fuel ∧
        2 * (prettyFields level (f :: fs)).length < fuel := by
      simp only [hfields, lineBreak, List.length_cons, List.length_append] at hfuel
      omega
    rw [← readFields?_skipSpace, hfields]
    simp only [List.append_assoc, List.cons_append]
    rw [skipSpace_lineBreak, readFields?_skipSpace]
    exact readFields?_cons
      (readValue?_pretty j level depth fuel _ h.1 (endsNumber_cons (.inl rfl) _) hshort.1)
      (readFields?_pretty (f :: fs) level up depth fuel rest (List.cons_ne_nil f fs) h.2 hshort.2)
end

/-- The text of a value is read as the value with each number read from its own text. -/
theorem read?_pretty {j : Json} (h : j.Fits maxDepth) : read? j.pretty = some j.reread := by
  have hread := readValue?_pretty j 0 maxDepth (2 * (prettyChars 0 j).length + 2) [] h
    endsNumber_nil (by omega)
  rw [List.append_nil] at hread
  rw [read?, pretty, String.toList_ofList, hread]
  rfl

end PatchTrial.Json
