import Errand.Text.Blank

/-!
# Errand — texts without the white space around them

A trimmed text is what stands between the white space at the two ends of a text, and it
neither starts nor ends with white space. That fixes it, so trimming is said here once
without the way in which it is done. A text of white space only is trimmed to nothing, and
every other text to a text that shows something.

* `Shows`              — a character of the text is no white space.
* `Trimmed`            — what trimming leaves of a text.
* `trim_eq_iff`        — trimming leaves exactly that.
* `IsSpaces.word_between` — a word stands between the white space at the two ends.
* `nonBlank?_eq_some_iff` — the trimmed text of what is not blank.
-/

namespace Errand.Text

/-- The text has a character that is no white space. -/
def Shows (s : String) : Prop := ∃ c ∈ s.toList, isSpace c = false

/-- White space and nothing else. -/
def IsSpaces (cs : List Char) : Prop := ∀ c ∈ cs, isSpace c = true

/-- What stands in a text between the white space at its two ends. -/
structure Trimmed (cs kept : List Char) : Prop where
  split : ∃ before after, cs = before ++ kept ++ after ∧ IsSpaces before ∧ IsSpaces after
  first : ∀ c ∈ kept.head?, isSpace c = false
  last : ∀ c ∈ kept.getLast?, isSpace c = false

/-- No character of ASCII that shows is white space. -/
theorem isSpace_of_ascii {c : Char} (h : 0x21 ≤ c.toNat ∧ c.toNat ≤ 0x7E) : isSpace c = false := by
  simp only [isSpace, spaceRanges, List.any_cons, List.any_nil, Bool.or_eq_false_iff,
    Bool.and_eq_false_iff, decide_eq_false_iff_not, and_true]
  omega

theorem isSpace_of_isDigit {c : Char} (h : c.isDigit = true) : isSpace c = false := by
  have hRange : 48 ≤ c.toNat ∧ c.toNat ≤ 57 := by
    simpa [Char.isDigit, UInt32.le_iff_toNat_le] using h
  exact isSpace_of_ascii (by omega)

theorem isSpace_of_isLower {c : Char} (h : c.isLower = true) : isSpace c = false := by
  obtain ⟨hLow, hHigh⟩ : 97 ≤ c.toNat ∧ c.toNat ≤ 122 := by
    simpa [UInt32.le_iff_toNat_le] using Bool.and_eq_true_iff.mp h
  exact isSpace_of_ascii (by omega)

-- ---------------------------------------------------------------------------
-- Blank texts
-- ---------------------------------------------------------------------------

theorem isBlank_eq_false_iff {s : String} : isBlank s = false ↔ Shows s := by
  simp [isBlank, Shows]

instance (s : String) : Decidable (Shows s) :=
  decidable_of_iff (isBlank s = false) isBlank_eq_false_iff

theorem IsSpaces.trimFront_append {w : List Char} (h : IsSpaces w) (cs : List Char) :
    trimFront (w ++ cs) = trimFront cs :=
  List.dropWhile_append_of_pos h

theorem IsSpaces.reverse {w : List Char} (h : IsSpaces w) : IsSpaces w.reverse :=
  fun c hc => h c (List.mem_reverse.mp hc)

/-- Where a text does not start with white space there is nothing to drop. -/
theorem trimFront_of_head {cs : List Char} (h : ∀ c ∈ cs.head?, isSpace c = false) :
    trimFront cs = cs := by
  cases cs with
  | nil => rfl
  | cons c rest => simp [trimFront, h c rfl]

-- ---------------------------------------------------------------------------
-- Trimming
-- ---------------------------------------------------------------------------

/-- A text is the white space in front of it and what is left without that. -/
theorem trimFront_split (cs : List Char) :
    (∃ w, IsSpaces w ∧ cs = w ++ trimFront cs) ∧ ∀ c ∈ (trimFront cs).head?, isSpace c = false := by
  refine ⟨⟨cs.takeWhile isSpace, fun c hc => ?_, List.takeWhile_append_dropWhile.symm⟩, ?_⟩
  · exact List.all_eq_true.mp List.all_takeWhile c hc
  · intro c hc
    have hNot := List.head?_dropWhile_not isSpace cs
    rw [show (List.dropWhile isSpace cs).head? = some c from hc] at hNot
    exact hNot

/-- What trimming leaves is what stands between the white space. -/
theorem trimmed_trimChars (cs : List Char) : Trimmed cs (trimChars cs) := by
  obtain ⟨⟨before, hBefore, hFront⟩, hFirst⟩ := trimFront_split cs
  obtain ⟨⟨after, hAfter, hBack⟩, hLast⟩ := trimFront_split (trimFront cs).reverse
  have hKept : trimFront cs = trimChars cs ++ after.reverse := by
    rw [trimChars, ← List.reverse_append, ← hBack, List.reverse_reverse]
  refine ⟨⟨before, after.reverse, ?_, hBefore, hAfter.reverse⟩, fun c hc => ?_, fun c hc => ?_⟩
  · rw [List.append_assoc, ← hKept]
    exact hFront
  · refine hFirst c ?_
    rw [hKept, List.head?_append, show (trimChars cs).head? = some c from hc]
    rfl
  · refine hLast c ?_
    rwa [trimChars, List.getLast?_reverse] at hc

/-- Only one text stands between the white space of a text. -/
theorem Trimmed.eq_trimChars {cs kept : List Char} (h : Trimmed cs kept) :
    kept = trimChars cs := by
  obtain ⟨⟨before, after, rfl, hBefore, hAfter⟩, hFirst, hLast⟩ := h
  have hBack : trimFront (kept ++ after).reverse = kept.reverse := by
    rw [List.reverse_append, hAfter.reverse.trimFront_append]
    exact trimFront_of_head (by rwa [List.head?_reverse])
  cases kept with
  | nil =>
    have hAll : trimFront after = [] := by
      rw [← List.append_nil after, hAfter.trimFront_append]
      rfl
    rw [trimChars, List.append_nil, hBefore.trimFront_append, hAll]
    rfl
  | cons c rest =>
    have hHead : trimFront (c :: rest ++ after) = c :: rest ++ after :=
      trimFront_of_head (by simpa using hFirst c rfl)
    rw [trimChars, List.append_assoc, hBefore.trimFront_append, hHead, hBack, List.reverse_reverse]

/-- **Trimming leaves exactly what stands between the white space.** -/
theorem trim_eq_iff {s t : String} : trim s = t ↔ Trimmed s.toList t.toList := by
  rw [trim]
  constructor
  · rintro rfl
    rw [String.toList_ofList]
    exact trimmed_trimChars s.toList
  · intro h
    rw [← h.eq_trimChars, String.ofList_toList]

theorem trimmed_trim (s : String) : Trimmed s.toList (trim s).toList := trim_eq_iff.mp rfl

/-- Something is left of exactly the texts that show something, and shows it. -/
theorem Trimmed.shows_iff {s t : String} (h : Trimmed s.toList t.toList) :
    Shows t ↔ Shows s := by
  obtain ⟨before, after, hSplit, hBefore, hAfter⟩ := h.split
  constructor
  · rintro ⟨c, hc, hSpace⟩
    refine ⟨c, ?_, hSpace⟩
    rw [hSplit]
    simp [hc]
  · rintro ⟨c, hc, hSpace⟩
    rw [hSplit, List.mem_append, List.mem_append] at hc
    rcases hc with (hc | hc) | hc
    · exact Bool.noConfusion ((hBefore c hc).symm.trans hSpace)
    · exact ⟨c, hc, hSpace⟩
    · exact Bool.noConfusion ((hAfter c hc).symm.trans hSpace)

theorem Trimmed.shows_iff_ne_empty {s t : String} (h : Trimmed s.toList t.toList) :
    Shows s ↔ t ≠ "" := by
  rw [← h.shows_iff]
  constructor
  · rintro ⟨c, hc, -⟩ rfl
    simp at hc
  · intro hNe
    cases hChars : t.toList with
    | nil => exact absurd (String.toList_inj.mp (hChars.trans String.toList_empty.symm)) hNe
    | cons c rest => exact ⟨c, by simp [hChars], h.first c (by rw [hChars]; rfl)⟩

/-- A word without white space stands behind the white space in front of a text. -/
theorem IsSpaces.word_of_append {w cs front word back : List Char} (hSpaces : IsSpaces w)
    (hWord : ∀ c ∈ word, isSpace c = false) (hNe : word ≠ [])
    (hSplit : w ++ cs = front ++ word ++ back) :
    ∃ front', front = w ++ front' ∧ cs = front' ++ word ++ back := by
  rw [List.append_assoc, List.append_eq_append_iff] at hSplit
  obtain ⟨front', hFront, hRest⟩ | ⟨shared, rfl, hRest⟩ := hSplit
  · exact ⟨front', hFront, by rw [hRest, List.append_assoc]⟩
  · obtain ⟨first, rest, rfl⟩ := List.exists_cons_of_ne_nil hNe
    cases shared with
    | nil => exact ⟨[], (List.append_nil _).symm.trans (List.append_nil _).symm, hRest.symm⟩
    | cons c shared =>
      -- the word would start with white space
      obtain rfl : first = c := List.head_eq_of_cons_eq hRest
      have hSpace := hSpaces first (by simp)
      exact Bool.noConfusion (hSpace.symm.trans (hWord first (by simp)))

/-- A word without white space stands between the white space at the ends of a text. -/
theorem IsSpaces.word_between {before kept after front word back : List Char}
    (hBefore : IsSpaces before) (hAfter : IsSpaces after)
    (hWord : ∀ c ∈ word, isSpace c = false) (hNe : word ≠ [])
    (hSplit : before ++ kept ++ after = front ++ word ++ back) :
    ∃ front' back', front = before ++ front' ∧ kept = front' ++ word ++ back' := by
  rw [List.append_assoc] at hSplit
  obtain ⟨front', hFront, hRest⟩ := hBefore.word_of_append hWord hNe hSplit
  -- read backwards, the white space behind is in front
  have hBackward : after.reverse ++ kept.reverse =
      back.reverse ++ word.reverse ++ front'.reverse := by
    rw [← List.reverse_append, hRest]
    simp
  obtain ⟨back', -, hKept⟩ := hAfter.reverse.word_of_append
    (fun c hc => hWord c (List.mem_reverse.mp hc)) (by simpa using hNe) hBackward
  refine ⟨front', back'.reverse, hFront, ?_⟩
  rw [← List.reverse_inj, hKept]
  simp

-- ---------------------------------------------------------------------------
-- Texts that may be blank
-- ---------------------------------------------------------------------------

theorem nonBlank?_eq_some_iff {s t : String} :
    nonBlank? s = some t ↔ Shows s ∧ Trimmed s.toList t.toList := by
  have hShows := (trimmed_trim s).shows_iff_ne_empty
  rw [← trim_eq_iff, nonBlank?]
  by_cases hEmpty : trim s = ""
  · simp [hEmpty, hShows]
  · simp [hEmpty, hShows]

end Errand.Text
