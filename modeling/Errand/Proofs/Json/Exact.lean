import Errand.Proofs.Json.Numeral
import Errand.Proofs.Json.Quoted

/-!
# Errand — reading is exact

The reader of structured text accepts exactly the texts of the grammar, with
exactly the values that they spell. Both directions go by induction on the fuel:
what is read with some fuel is a spelling, and a spelling is read with twice as
much fuel as it has characters.

A container ends at its own bracket, whatever comes after. So two spellings that
start in the same place spell the same value, and a text that spells an object
cannot be cut so that it spells another one.

* `Sound`, `sound`             — what is read is a spelling.
* `Complete`, `complete`       — a spelling is read.
* `parse?_eq_some_iff`         — the reader of whole texts is exact.
* `Acceptable.eq_of_append`    — where a text may go on from one that spells an object.
* `get?_ofMembers`             — of two members with one name the later stays.
-/

namespace Errand.Json

open Reader

-- ---------------------------------------------------------------------------
-- White space
-- ---------------------------------------------------------------------------

theorem isBlank_iff {c : Char} : isBlank c = true ↔ c ∈ [' ', '\t', '\n', '\r'] := by
  simp [isBlank, or_assoc]

theorem blanks_nil : Blanks [] := fun _ hc => absurd hc List.not_mem_nil

theorem Blanks.append {w w' : List Char} (h : Blanks w) (h' : Blanks w') : Blanks (w ++ w') :=
  fun c hc => (List.mem_append.mp hc).elim (h c) (h' c)

/-- White space goes on with no number. -/
theorem goesOn_of_isBlank {c : Char} (h : isBlank c = true) : goesOn c = false := by
  have := isBlank_iff.mp h
  simp only [List.mem_cons, List.not_mem_nil, or_false] at this
  rcases this with rfl | rfl | rfl | rfl <;> decide

/-- A text is the white space in front of it and what is left without that. -/
theorem skipBlanks_spec (cs : List Char) : ∃ w, Blanks w ∧ cs = w ++ skipBlanks cs := by
  refine ⟨cs.takeWhile isBlank, fun c hc => isBlank_iff.mp ?_, List.takeWhile_append_dropWhile.symm⟩
  exact (List.all_eq_true.mp List.all_takeWhile) c hc

theorem skipBlanks_append {w : List Char} (h : Blanks w) (cs : List Char) :
    skipBlanks (w ++ cs) = skipBlanks cs :=
  List.dropWhile_append_of_pos fun c hc => isBlank_iff.mpr (h c hc)

theorem skipBlanks_cons {c : Char} (h : isBlank c = false) (cs : List Char) :
    skipBlanks (c :: cs) = c :: cs := by
  simp [skipBlanks, h]

@[simp] theorem skipBlanks_skipBlanks (cs : List Char) :
    skipBlanks (skipBlanks cs) = skipBlanks cs := by
  obtain ⟨w, hw, hcs⟩ := skipBlanks_spec cs
  have := skipBlanks_append hw (skipBlanks cs)
  rw [← hcs] at this
  exact this.symm

-- ---------------------------------------------------------------------------
-- What is read is a spelling
-- ---------------------------------------------------------------------------

theorem word_eq_some_iff {w : String} {v v' : Json} {cs rest : List Char} :
    word w v cs = some (v', rest) ↔ cs = w.toList ++ rest ∧ v' = v := by
  unfold word
  split
  · rename_i h
    obtain ⟨r, rfl⟩ := List.isPrefixOf_iff_prefix.mp h
    rw [← String.length_toList, List.drop_left, Option.some.injEq, Prod.mk.injEq,
      List.append_cancel_left_eq]
    exact ⟨fun h => ⟨h.2, h.1.symm⟩, fun h => ⟨h.2.symm, h.1⟩⟩
  · rename_i hPrefix
    constructor
    · intro h
      cases h
    · rintro ⟨rfl, -⟩
      exact absurd (List.isPrefixOf_iff_prefix.mpr (List.prefix_append _ _)) hPrefix

section Blanks

variable {depth : Nat} {w cs : List Char} (hw : Blanks w)
include hw

theorem Spaced.blanks_append {v : Json} (h : Spaced depth cs v) : Spaced depth (w ++ cs) v := by
  obtain ⟨before, h, after⟩ := h
  rw [← List.append_assoc]
  exact ⟨hw.append before, h, after⟩

theorem Member.blanks_append {m : String × Json} (h : Member depth cs m) :
    Member depth (w ++ cs) m := by
  obtain ⟨before, h, after, value⟩ := h
  rw [← List.append_assoc]
  exact ⟨hw.append before, h, after, value⟩

/-- White space in front of the first item is part of the items. -/
theorem Items.blanks_append {vs : List Json} (h : Items depth cs vs) :
    Items depth (w ++ cs) vs := by
  cases h with
  | one h => exact .one (h.blanks_append hw)
  | more h others =>
    rw [← List.append_assoc]
    exact .more (h.blanks_append hw) others

/-- White space in front of the first member is part of the members. -/
theorem Members.blanks_append {ms : List (String × Json)} (h : Members depth cs ms) :
    Members depth (w ++ cs) ms := by
  cases h with
  | one h => exact .one (h.blanks_append hw)
  | more h others =>
    rw [← List.append_assoc]
    exact .more (h.blanks_append hw) others

end Blanks

/-- Whatever is read with this fuel is a spelling of its value. -/
structure Sound (fuel : Nat) : Prop where
  value : ∀ {depth : Nat} {cs rest : List Char} {v : Json},
    Reader.value fuel depth cs = some (v, rest) → ∃ pre, cs = pre ++ rest ∧ Written depth pre v
  items : ∀ {depth : Nat} {read : List Json} {cs rest : List Char} {v : Json},
    Reader.items fuel depth read cs = some (v, rest) →
      ∃ pre vs, cs = pre ++ ']' :: rest ∧ Items depth pre vs ∧ v = .array (read.reverse ++ vs)
  members : ∀ {depth : Nat} {read : List (String × Json)} {cs rest : List Char} {v : Json},
    Reader.members fuel depth read cs = some (v, rest) →
      ∃ pre ms, cs = pre ++ '\x7d' :: rest ∧ Members depth pre ms ∧
        v = ofMembers (read.reverse ++ ms)

theorem Sound.array {fuel depth : Nat} (h : Sound fuel) {cs rest : List Char} {v : Json}
    (hv : (match skipBlanks cs with
      | ']' :: rest => some (Json.array [], rest)
      | rest => Reader.items fuel depth [] rest) = some (v, rest)) :
    ∃ pre, '[' :: cs = pre ++ rest ∧ Written (depth + 1) pre v := by
  obtain ⟨w, hw, hcs⟩ := skipBlanks_spec cs
  split at hv
  · rename_i hEq
    cases hv
    rw [hEq] at hcs
    exact ⟨'[' :: (w ++ [']']), by simp [hcs], .emptyArray hw⟩
  · obtain ⟨pre, vs, hEq, hvs, rfl⟩ := h.items hv
    rw [hEq] at hcs
    exact ⟨'[' :: (w ++ pre ++ [']']), by simp [hcs], .array (hvs.blanks_append hw)⟩

theorem Sound.object {fuel depth : Nat} (h : Sound fuel) {cs rest : List Char} {v : Json}
    (hv : (match skipBlanks cs with
      | '\x7d' :: rest => some (Json.object [], rest)
      | rest => Reader.members fuel depth [] rest) = some (v, rest)) :
    ∃ pre, '\x7b' :: cs = pre ++ rest ∧ Written (depth + 1) pre v := by
  obtain ⟨w, hw, hcs⟩ := skipBlanks_spec cs
  split at hv
  · rename_i hEq
    cases hv
    rw [hEq] at hcs
    exact ⟨'\x7b' :: (w ++ ['\x7d']), by simp [hcs], .emptyObject hw⟩
  · obtain ⟨pre, ms, hEq, hms, rfl⟩ := h.members hv
    rw [hEq] at hcs
    exact ⟨'\x7b' :: (w ++ pre ++ ['\x7d']), by simp [hcs], .object (hms.blanks_append hw)⟩

theorem Sound.value_succ {fuel depth : Nat} (h : Sound fuel) {cs rest : List Char} {v : Json}
    (hv : Reader.value (fuel + 1) depth cs = some (v, rest)) :
    ∃ pre, cs = pre ++ rest ∧ Written depth pre v := by
  rcases cs with _ | ⟨c, cs⟩
  · cases hv
  unfold Reader.value at hv
  split at hv
  · rename_i hc
    subst hc
    obtain ⟨⟨s, r⟩, hs, hEq⟩ := Option.map_eq_some_iff.mp hv
    cases hEq
    obtain ⟨body, out, rfl, hBody, rfl⟩ := stringBody_sound hs
    exact ⟨'"' :: (body ++ ['"']), by simp, .string hBody⟩
  split at hv
  · rename_i hc
    subst hc
    cases depth with
    | zero => cases hv
    | succ depth => exact h.array hv
  split at hv
  · rename_i hc
    subst hc
    cases depth with
    | zero => cases hv
    | succ depth => exact h.object hv
  split at hv
  · obtain ⟨hEq, rfl⟩ := word_eq_some_iff.mp hv
    exact ⟨_, hEq, .null⟩
  split at hv
  · obtain ⟨hEq, rfl⟩ := word_eq_some_iff.mp hv
    exact ⟨_, hEq, .truth⟩
  split at hv
  · obtain ⟨hEq, rfl⟩ := word_eq_some_iff.mp hv
    exact ⟨_, hEq, .falsehood⟩
  · obtain ⟨⟨n, r⟩, hn, hEq⟩ := Option.map_eq_some_iff.mp hv
    cases hEq
    obtain ⟨pre, hPre, hn⟩ := number_sound hn
    exact ⟨pre, hPre, .number hn⟩

theorem Sound.items_succ {fuel depth : Nat} (h : Sound fuel) {read : List Json}
    {cs rest : List Char} {v : Json}
    (hv : Reader.items (fuel + 1) depth read cs = some (v, rest)) :
    ∃ pre vs, cs = pre ++ ']' :: rest ∧ Items depth pre vs ∧ v = .array (read.reverse ++ vs) := by
  unfold Reader.items at hv
  split at hv
  · cases hv
  rename_i item behind hItem
  obtain ⟨w, hw, hcs⟩ := skipBlanks_spec cs
  obtain ⟨text, hText, hWritten⟩ := h.value hItem
  obtain ⟨w', hw', hBehind⟩ := skipBlanks_spec behind
  split at hv
  · rename_i next hEq
    obtain ⟨pre, vs, rfl, hvs, rfl⟩ := h.items hv
    exact ⟨w ++ (text ++ w') ++ ',' :: pre, item :: vs,
      by rw [hcs, hText, hBehind, hEq]; simp, .more ⟨hw, hWritten, hw'⟩ hvs, by simp⟩
  · rename_i next hEq
    cases hv
    exact ⟨w ++ (text ++ w'), [item], by rw [hcs, hText, hBehind, hEq]; simp,
      .one ⟨hw, hWritten, hw'⟩, by simp⟩
  · cases hv

theorem Sound.members_succ {fuel depth : Nat} (h : Sound fuel) {read : List (String × Json)}
    {cs rest : List Char} {v : Json}
    (hv : Reader.members (fuel + 1) depth read cs = some (v, rest)) :
    ∃ pre ms, cs = pre ++ '\x7d' :: rest ∧ Members depth pre ms ∧
      v = ofMembers (read.reverse ++ ms) := by
  unfold Reader.members at hv
  split at hv
  case h_2 => cases hv
  rename_i quoted hQuote
  obtain ⟨w, hw, hcs⟩ := skipBlanks_spec cs
  rw [hQuote] at hcs
  split at hv
  · cases hv
  rename_i name behind hName
  obtain ⟨body, out, rfl, hBody, rfl⟩ := stringBody_sound hName
  obtain ⟨w', hw', hBehind⟩ := skipBlanks_spec behind
  split at hv
  case h_2 => cases hv
  rename_i spaced hColon
  rw [hColon] at hBehind
  obtain ⟨w₁, hw₁, hSpaced⟩ := skipBlanks_spec spaced
  split at hv
  · cases hv
  rename_i item after hItem
  obtain ⟨text, hText, hWritten⟩ := h.value hItem
  obtain ⟨w₂, hw₂, hAfter⟩ := skipBlanks_spec after
  split at hv
  · rename_i next hEq
    obtain ⟨pre, ms, rfl, hms, rfl⟩ := h.members hv
    exact ⟨w ++ '"' :: (body ++ '"' :: (w' ++ ':' :: (w₁ ++ (text ++ w₂)))) ++ ',' :: pre,
      (String.ofList out, item) :: ms,
      by rw [hcs, hBehind, hSpaced, hText, hAfter, hEq]; simp,
      .more ⟨hw, hBody, hw', ⟨hw₁, hWritten, hw₂⟩⟩ hms, by simp⟩
  · rename_i next hEq
    cases hv
    exact ⟨w ++ '"' :: (body ++ '"' :: (w' ++ ':' :: (w₁ ++ (text ++ w₂)))),
      [(String.ofList out, item)], by rw [hcs, hBehind, hSpaced, hText, hAfter, hEq]; simp,
      .one ⟨hw, hBody, hw', ⟨hw₁, hWritten, hw₂⟩⟩, by simp⟩
  · cases hv

theorem sound (fuel : Nat) : Sound fuel := by
  -- each of the three readers calls the others with one fuel less
  induction fuel with
  | zero =>
    constructor
    · intro depth cs rest v h
      unfold Reader.value at h
      cases h
    · intro depth read cs rest v h
      unfold Reader.items at h
      cases h
    · intro depth read cs rest v h
      unfold Reader.members at h
      cases h
  | succ fuel ih => exact ⟨ih.value_succ, ih.items_succ, ih.members_succ⟩

-- ---------------------------------------------------------------------------
-- A spelling is read
-- ---------------------------------------------------------------------------

theorem NumberText.head {cs : List Char} {n : Json.Number} (h : NumberText cs n) :
    ∃ c rest, cs = c :: rest ∧ (c = '-' ∨ c.isDigit = true) := by
  obtain ⟨negative, whole, ft, et, f, e, rfl, ⟨hDigits, -⟩, -⟩ := numberText_iff.mp h
  obtain ⟨d, ds, rfl, hd⟩ := hDigits.exists_cons
  cases negative with
  | true => exact ⟨'-', _, rfl, .inl rfl⟩
  | false => exact ⟨d, _, rfl, .inr hd⟩

/-- No value starts with white space, or with the bracket that ends an array. -/
theorem Written.head {depth : Nat} {cs : List Char} {v : Json} (h : Written depth cs v) :
    ∃ c rest, cs = c :: rest ∧ isBlank c = false ∧ c ≠ ']' := by
  cases h with
  | number h =>
    obtain ⟨c, rest, rfl, hc⟩ := h.head
    refine ⟨c, rest, rfl, ?_⟩
    rcases hc with rfl | hc
    · decide
    · have hGoes : goesOn c = true := by simp [goesOn, hc]
      refine ⟨Bool.eq_false_iff.mpr fun hBlank => ?_, ?_⟩
      · exact Bool.noConfusion (hGoes.symm.trans (goesOn_of_isBlank hBlank))
      · rintro rfl
        exact absurd hc (by decide)
  | _ => exact ⟨_, _, rfl, by decide, by decide⟩

/-- The rest of a text does not go on with the value in front of it. Only a number could. -/
def EndsValue (v : Json) (rest : List Char) : Prop := ∀ n, v = .number n → EndsNumber rest

/--
Every spelling is read whole if there is this much fuel. A character needs two
steps of it: one for the item or member that it stands in, one for the value.
-/
structure Complete (fuel : Nat) : Prop where
  value : ∀ {depth : Nat} {cs rest : List Char} {v : Json}, Written depth cs v →
    2 * cs.length ≤ fuel → EndsValue v rest →
      Reader.value fuel depth (cs ++ rest) = some (v, rest)
  items : ∀ {depth : Nat} {cs : List Char} {vs : List Json}, Items depth cs vs →
    2 * cs.length < fuel → ∀ (read : List Json) (rest : List Char),
      Reader.items fuel depth read (cs ++ ']' :: rest) = some (.array (read.reverse ++ vs), rest)
  members : ∀ {depth : Nat} {cs : List Char} {ms : List (String × Json)}, Members depth cs ms →
    2 * cs.length < fuel → ∀ (read : List (String × Json)) (rest : List Char),
      Reader.members fuel depth read (cs ++ '\x7d' :: rest) =
        some (ofMembers (read.reverse ++ ms), rest)

/-- White space goes on with no value. -/
theorem endsValue_append {w rest : List Char} (hw : Blanks w) (hRest : EndsNumber rest)
    (v : Json) : EndsValue v (w ++ rest) := by
  intro n _
  cases w with
  | nil => exact hRest
  | cons b w =>
    exact endsNumber_cons.mpr (goesOn_of_isBlank (isBlank_iff.mpr (hw b List.mem_cons_self)))

/-- A value with white space around it is read up to the character behind that. -/
theorem Complete.spaced {fuel depth : Nat} (h : Complete fuel) {cs : List Char} {v : Json}
    (hv : Spaced depth cs v) (hLen : 2 * cs.length ≤ fuel) {c : Char} (hBlank : isBlank c = false)
    (hc : goesOn c = false) (rest : List Char) :
    ∃ behind, Reader.value fuel depth (skipBlanks (cs ++ c :: rest)) = some (v, behind) ∧
      skipBlanks behind = c :: rest := by
  obtain ⟨hw, hWritten, hw'⟩ := hv
  rename_i w text w'
  obtain ⟨first, more, hText, hFirst, -⟩ := hWritten.head
  refine ⟨w' ++ c :: rest, ?_, by rw [skipBlanks_append hw', skipBlanks_cons hBlank]⟩
  have hSkip : skipBlanks (w ++ (text ++ w') ++ c :: rest) = text ++ (w' ++ c :: rest) := by
    simp only [List.append_assoc]
    rw [skipBlanks_append hw, hText, List.cons_append, skipBlanks_cons hFirst]
  rw [hSkip]
  simp only [List.length_append] at hLen
  exact h.value hWritten (by omega) (endsValue_append hw' (endsNumber_cons.mpr hc) v)

theorem Complete.items_succ {fuel depth : Nat} (h : Complete fuel) {cs : List Char}
    {vs : List Json} (hvs : Items depth cs vs) (hLen : 2 * cs.length < fuel + 1)
    (read : List Json) (rest : List Char) :
    Reader.items (fuel + 1) depth read (cs ++ ']' :: rest) =
      some (.array (read.reverse ++ vs), rest) := by
  unfold Reader.items
  cases hvs with
  | @one _ _ v hv =>
    obtain ⟨behind, hRead, hBehind⟩ :=
      h.spaced hv (by omega) (c := ']') (by decide) (by decide) rest
    simp [hRead, hBehind]
  | @more _ first others v vs hv hvs =>
    simp only [List.length_append, List.length_cons] at hLen
    obtain ⟨behind, hRead, hBehind⟩ :=
      h.spaced hv (by omega) (c := ',') (by decide) (by decide) (others ++ ']' :: rest)
    have := h.items hvs (by omega) (v :: read) rest
    simpa [hRead, hBehind] using this

/-- A member is read whole, and the character behind it says whether more members follow. -/
theorem Complete.member {fuel depth : Nat} (h : Complete fuel) {cs : List Char}
    {m : String × Json} (hm : Member depth cs m) (hLen : 2 * cs.length ≤ fuel)
    (read : List (String × Json)) (rest : List Char) :
    Reader.members (fuel + 1) depth read (cs ++ ',' :: rest) =
        Reader.members fuel depth (m :: read) rest ∧
      Reader.members (fuel + 1) depth read (cs ++ '\x7d' :: rest) =
        some (ofMembers (m :: read).reverse, rest) := by
  obtain ⟨hw, hName, hw', hValue⟩ := hm
  rename_i w name s w' text v
  simp only [List.length_append, List.length_cons] at hLen
  have hQuote : ∀ tail, skipBlanks (w ++ '"' :: (name ++ '"' :: (w' ++ ':' :: text)) ++ tail) =
      '"' :: (name ++ '"' :: (w' ++ ':' :: (text ++ tail))) := by
    intro tail
    rw [List.append_assoc, skipBlanks_append hw]
    simp [skipBlanks_cons (show isBlank '"' = false by decide)]
  have hString : ∀ tail, stringBody fuel [] (name ++ '"' :: tail) = some (String.ofList s, tail) :=
    fun tail => stringBody_complete hName tail fuel [] (by omega)
  have hColon : ∀ tail, skipBlanks (w' ++ ':' :: tail) = ':' :: tail := by
    intro tail
    rw [skipBlanks_append hw', skipBlanks_cons (by decide)]
  constructor
  · obtain ⟨behind, hRead, hBehind⟩ :=
      h.spaced hValue (by omega) (c := ',') (by decide) (by decide) rest
    conv_lhs => unfold Reader.members
    simp only [hQuote, hString, hColon, hRead, hBehind]
  · obtain ⟨behind, hRead, hBehind⟩ :=
      h.spaced hValue (by omega) (c := '\x7d') (by decide) (by decide) rest
    conv_lhs => unfold Reader.members
    simp only [hQuote, hString, hColon, hRead, hBehind]

theorem Complete.members_succ {fuel depth : Nat} (h : Complete fuel) {cs : List Char}
    {ms : List (String × Json)} (hms : Members depth cs ms) (hLen : 2 * cs.length < fuel + 1)
    (read : List (String × Json)) (rest : List Char) :
    Reader.members (fuel + 1) depth read (cs ++ '\x7d' :: rest) =
      some (ofMembers (read.reverse ++ ms), rest) := by
  cases hms with
  | one hm =>
    rw [(h.member hm (by omega) read rest).2, List.reverse_cons]
  | @more _ first others m ms hm hms =>
    simp only [List.length_append, List.length_cons] at hLen
    have := h.members hms (by omega) (m :: read) rest
    rw [List.append_assoc, List.cons_append, (h.member hm (by omega) read _).1]
    simpa using this

/-- Behind white space a value starts with a character that does not end an array. -/
theorem Spaced.head {depth : Nat} {cs : List Char} {v : Json} (h : Spaced depth cs v)
    (rest : List Char) : ∃ c more, skipBlanks (cs ++ rest) = c :: more ∧ c ≠ ']' := by
  obtain ⟨hw, hWritten, -⟩ := h
  obtain ⟨c, more, rfl, hBlank, hc⟩ := hWritten.head
  simp only [List.append_assoc, List.cons_append]
  exact ⟨c, _, by rw [skipBlanks_append hw, skipBlanks_cons hBlank], hc⟩

theorem Items.head {depth : Nat} {cs : List Char} {vs : List Json} (h : Items depth cs vs)
    (rest : List Char) : ∃ c more, skipBlanks (cs ++ rest) = c :: more ∧ c ≠ ']' := by
  cases h with
  | one hv => exact hv.head rest
  | more hv => simpa only [List.append_assoc] using hv.head _

/-- Behind white space a member starts with a quote. -/
theorem Member.head {depth : Nat} {cs : List Char} {m : String × Json} (h : Member depth cs m)
    (rest : List Char) : ∃ more, skipBlanks (cs ++ rest) = '"' :: more := by
  obtain ⟨hw, -, -, -⟩ := h
  simp only [List.append_assoc, List.cons_append]
  exact ⟨_, by rw [skipBlanks_append hw, skipBlanks_cons (by decide)]⟩

theorem Members.head {depth : Nat} {cs : List Char} {ms : List (String × Json)}
    (h : Members depth cs ms) (rest : List Char) :
    ∃ more, skipBlanks (cs ++ rest) = '"' :: more := by
  cases h with
  | one hm => exact hm.head rest
  | more hm => simpa only [List.append_assoc] using hm.head _

theorem items_skipBlanks (fuel depth : Nat) (read : List Json) (cs : List Char) :
    Reader.items fuel depth read (skipBlanks cs) = Reader.items fuel depth read cs := by
  unfold Reader.items
  rw [skipBlanks_skipBlanks]

theorem members_skipBlanks (fuel depth : Nat) (read : List (String × Json)) (cs : List Char) :
    Reader.members fuel depth read (skipBlanks cs) = Reader.members fuel depth read cs := by
  unfold Reader.members
  rw [skipBlanks_skipBlanks]

/-- What starts like a number is read as one. -/
theorem value_number {c : Char} (hc : c = '-' ∨ c.isDigit = true) (fuel depth : Nat)
    (cs : List Char) : Reader.value (fuel + 1) depth (c :: cs) =
      (Reader.number (c :: cs)).map fun (n, rest) => (.number n, rest) := by
  have hNe : ∀ d, d ≠ '-' → d.isDigit = false → c ≠ d := by
    rintro d hd hDigit rfl
    rcases hc with rfl | hc
    · exact hd rfl
    · exact Bool.noConfusion (hc.symm.trans hDigit)
  unfold Reader.value
  rw [if_neg (hNe _ (by decide) (by decide)), if_neg (hNe _ (by decide) (by decide)),
    if_neg (hNe _ (by decide) (by decide)), if_neg (hNe _ (by decide) (by decide)),
    if_neg (hNe _ (by decide) (by decide)), if_neg (hNe _ (by decide) (by decide))]

theorem Complete.value_succ {fuel depth : Nat} (h : Complete fuel) {cs rest : List Char} {v : Json}
    (hv : Written depth cs v) (hLen : 2 * cs.length ≤ fuel + 1) (hRest : EndsValue v rest) :
    Reader.value (fuel + 1) depth (cs ++ rest) = some (v, rest) := by
  cases hv with
  | null => simp [Reader.value, word_eq_some_iff]
  | truth => simp [Reader.value, word_eq_some_iff]
  | falsehood => simp [Reader.value, word_eq_some_iff]
  | number hn =>
    obtain ⟨c, more, rfl, hc⟩ := hn.head
    rw [List.cons_append, value_number hc, ← List.cons_append, number_complete hn (hRest _ rfl)]
    rfl
  | @string _ text s hs =>
    simp only [List.length_cons, List.length_append] at hLen
    have := stringBody_complete hs rest fuel [] (by omega)
    simp [Reader.value, this]
  | @emptyArray _ w hw =>
    simp [Reader.value, skipBlanks_append hw, skipBlanks_cons (show isBlank ']' = false by decide)]
  | @array depth text vs hvs =>
    simp only [List.length_cons, List.length_append] at hLen
    have := h.items hvs (by omega) [] rest
    obtain ⟨c, more, hSkip, hc⟩ := hvs.head (']' :: rest)
    rw [← items_skipBlanks, hSkip] at this
    simpa [Reader.value, hSkip, hc] using this
  | @emptyObject _ w hw =>
    simp [Reader.value, skipBlanks_append hw,
      skipBlanks_cons (show isBlank '\x7d' = false by decide)]
  | @object depth text ms hms =>
    simp only [List.length_cons, List.length_append] at hLen
    have := h.members hms (by omega) [] rest
    obtain ⟨more, hSkip⟩ := hms.head ('\x7d' :: rest)
    rw [← members_skipBlanks, hSkip] at this
    simpa [Reader.value, hSkip] using this

theorem complete (fuel : Nat) : Complete fuel := by
  induction fuel with
  | zero =>
    constructor
    · intro depth cs rest v hv hLen
      obtain ⟨c, more, rfl, -⟩ := hv.head
      simp at hLen
    · intro depth cs vs _ hLen
      exact absurd hLen (Nat.not_lt_zero _)
    · intro depth cs ms _ hLen
      exact absurd hLen (Nat.not_lt_zero _)
  | succ fuel ih => exact ⟨ih.value_succ, ih.items_succ, ih.members_succ⟩

/-- Two spellings that start in the same place spell the same value and end in the same place. -/
theorem Written.unique_of_append {depth : Nat} {cs cs' rest rest' : List Char} {v v' : Json}
    (h : Written depth cs v) (h' : Written depth cs' v') (hEq : cs ++ rest = cs' ++ rest')
    (hRest : EndsValue v rest) (hRest' : EndsValue v' rest') : v = v' ∧ rest = rest' := by
  have hRead := (complete (2 * (cs ++ rest).length)).value h
    (by simp only [List.length_append]; omega) hRest
  have hRead' := (complete (2 * (cs' ++ rest').length)).value h'
    (by simp only [List.length_append]; omega) hRest'
  rw [← hEq, hRead] at hRead'
  simpa using hRead'

-- ---------------------------------------------------------------------------
-- Whole texts
-- ---------------------------------------------------------------------------

/-- The reader accepts exactly the texts of the grammar, with the values that they spell. -/
theorem parse?_eq_some_iff {text : String} {v : Json} :
    parse? text = some v ↔ Acceptable text v := by
  constructor
  · intro h
    simp only [parse?] at h
    split at h
    · rename_i u rest hRead
      obtain ⟨w, hw, hText⟩ := skipBlanks_spec text.toList
      obtain ⟨pre, hPre, hWritten⟩ := (sound _).value hRead
      obtain ⟨w', hw', hRest⟩ := skipBlanks_spec rest
      split at h
      · rename_i hEmpty
        cases h
        rw [List.isEmpty_iff.mp hEmpty, List.append_nil] at hRest
        subst hRest
        rw [Acceptable, hText, hPre]
        exact ⟨hw, hWritten, hw'⟩
      · cases h
    · cases h
  · intro h
    rw [Acceptable] at h
    generalize hText : text.toList = cs at h
    obtain ⟨hw, hWritten, hw'⟩ := h
    rename_i w pre w'
    obtain ⟨c, more, rfl, hc, -⟩ := hWritten.head
    have hSkip : skipBlanks text.toList = c :: more ++ w' := by
      rw [hText, skipBlanks_append hw, List.cons_append, skipBlanks_cons hc]
    have hRead := (complete (2 * (c :: more ++ w').length + 2)).value hWritten
      (by simp only [List.length_append]; omega)
      (by simpa using endsValue_append hw' endsNumber_nil v)
    have hRest : skipBlanks w' = [] := by simpa [skipBlanks] using skipBlanks_append hw' []
    simp only [parse?, maxDepth, hSkip, hRead, hRest, List.isEmpty_nil, if_true]

-- ---------------------------------------------------------------------------
-- Texts that go on
-- ---------------------------------------------------------------------------

/-- An object ends with its brace. -/
theorem Written.object_last {depth : Nat} {cs : List Char} {ms : List (String × Json)}
    (h : Written depth cs (.object ms)) : ∃ body, cs = body ++ ['\x7d'] := by
  generalize hv : Json.object ms = v at h
  cases h with
  | @emptyObject _ w => exact ⟨'\x7b' :: w, rfl⟩
  | @object _ text => exact ⟨'\x7b' :: text, rfl⟩
  | _ => cases hv

/-- A text that spells an object ends with a brace or with white space. -/
theorem Acceptable.object_last {text : String} {ms : List (String × Json)} {cs : List Char}
    {c : Char} (h : Acceptable text (.object ms)) (hLast : text.toList = cs ++ [c]) :
    c = '\x7d' ∨ isBlank c = true := by
  rw [Acceptable, hLast] at h
  generalize hText : cs ++ [c] = text at h
  obtain ⟨-, hWritten, hAfter⟩ := h
  rename_i w pre w'
  obtain ⟨body, rfl⟩ := hWritten.object_last
  rcases List.eq_nil_or_concat w' with rfl | ⟨w'', b, rfl⟩
  · have hEnd : cs ++ [c] = w ++ body ++ ['\x7d'] := by simpa using hText
    exact .inl (List.singleton_inj.mp (List.append_inj' hEnd rfl).2)
  · have hEnd : cs ++ [c] = w ++ (body ++ ['\x7d'] ++ w'') ++ [b] := by simpa using hText
    have hc := List.singleton_inj.mp (List.append_inj' hEnd rfl).2
    exact .inr (isBlank_iff.mpr (hAfter c (by simp [hc])))

/-- No text goes on from one that spells an object, unless it spells the same object. -/
theorem Acceptable.eq_of_append {text text' : String} {ms : List (String × Json)} {v : Json}
    {more : List Char} (h : Acceptable text (.object ms)) (h' : Acceptable text' v)
    (hEq : text'.toList = text.toList ++ more) : v = .object ms := by
  rw [Acceptable, hEq] at h'
  rw [Acceptable] at h
  generalize text.toList = cs at h h'
  generalize hcs' : cs ++ more = cs' at h'
  obtain ⟨hw, hWritten, hw'⟩ := h
  obtain ⟨hu, hWritten', hu'⟩ := h'
  rename_i w pre w' u pre' u'
  obtain ⟨c, rest, hPre, hc, -⟩ := hWritten.head
  obtain ⟨c', rest', hPre', hc', -⟩ := hWritten'.head
  -- both values start behind the white space of the longer text
  have hSkip : skipBlanks (w ++ (pre ++ w') ++ more) = pre ++ (w' ++ more) := by
    rw [List.append_assoc, skipBlanks_append hw, hPre]
    simp [skipBlanks_cons hc]
  have hSkip' : skipBlanks (u ++ (pre' ++ u')) = pre' ++ u' := by
    rw [skipBlanks_append hu, hPre', List.cons_append, skipBlanks_cons hc']
  rw [hcs', hSkip'] at hSkip
  refine (hWritten'.unique_of_append hWritten hSkip ?_ nofun).1
  simpa using endsValue_append hu' endsNumber_nil v

-- ---------------------------------------------------------------------------
-- Members with one name
-- ---------------------------------------------------------------------------

/-- A member put in leaves the members of other names alone. -/
theorem member?_insertMember_ne {name other : String} (hNe : other ≠ name) (v : Json)
    (ms : List (String × Json)) : member? name (insertMember other v ms) = member? name ms := by
  induction ms with
  | nil => simp [insertMember, member?, hNe]
  | cons m ms ih =>
    obtain ⟨first, old⟩ := m
    unfold insertMember
    split
    · rename_i hEq
      subst hEq
      simp [member?, hNe]
    · split
      · simp [member?, hNe]
      · by_cases hFirst : first = name
        · simp [member?, hFirst]
        · simpa [member?, hFirst] using ih

theorem member?_insertMember (name other : String) (v : Json) (ms : List (String × Json)) :
    member? name (insertMember other v ms) = (member? name [(other, v)]).or (member? name ms) := by
  by_cases hNe : other = name
  · subst hNe
    rw [member?_insertMember_self]
    simp [member?]
  · rw [member?_insertMember_ne hNe]
    simp [member?, hNe]

/-- Members put in one after the other are found from the last to the first. -/
theorem member?_foldl_insertMember (name : String) (ms sorted : List (String × Json)) :
    member? name (ms.foldl (fun sorted (name, value) => insertMember name value sorted) sorted) =
      (member? name ms.reverse).or (member? name sorted) := by
  induction ms generalizing sorted with
  | nil => simp [member?]
  | cons m ms ih =>
    have hAppend : member? name (ms.reverse ++ [m]) =
        (member? name ms.reverse).or (member? name [m]) := by
      simp only [member?, List.find?_append, Option.map_or]
    rw [List.foldl_cons, ih, member?_insertMember, List.reverse_cons, hAppend, Option.or_assoc]

/-- An object has the member that was written last under a name. -/
theorem get?_ofMembers (name : String) (ms : List (String × Json)) :
    get? name (ofMembers ms) = member? name ms.reverse := by
  rw [ofMembers, get?, member?_foldl_insertMember]
  exact Option.or_none

end Errand.Json
