import Mathlib
import Errand.Pattern.Match

/-!
# Errand — the match that is found

Of the ends that a matcher gives, only the first one decides on the match of a whole text:
the match is the preferred one at the first place that has any. So it is enough to know the
preferred end of an expression, and this one is told by its parts without the ends behind it.

* `first?`              — the preferred end of an expression's matches at a place.
* `head?_thin`          — no preferred end is thinned out.
* `first?_group`, `first?_literal_seq`, `first?_run` — the preferred end by the expression's form.
* `first?_of_find?`, `first?_of_find?_eq_none` — the first place with a match, and that match.
-/

namespace Errand.Pattern

variable {text : Array Char} {p : Pattern} {h g : Hit}

/-- The preferred end of an expression's matches that start where a hit ends. -/
def first? (text : Array Char) (p : Pattern) (h : Hit) : Option Hit := (hits text p h).head?

-- ---------------------------------------------------------------------------
-- One end for each place
-- ---------------------------------------------------------------------------

/-- The hit that is met first is the last one of those that are kept. -/
theorem getLast?_foldl_keep {kept : List Hit} (hKept : kept.getLast? = some h)
    (seen : Std.HashSet Nat) (hits : List Hit) :
    (hits.foldl (fun (state : Std.HashSet Nat × List Hit) h =>
      if state.1.contains h.stop then state else (state.1.insert h.stop, h :: state.2))
      (seen, kept)).2.getLast? = some h := by
  induction hits generalizing seen kept with
  | nil => exact hKept
  | cons next rest ih =>
    rw [List.foldl_cons]
    split
    · exact ih hKept seen
    · refine ih ?_ _
      rw [List.getLast?_cons, hKept, Option.getD_some]

/-- **No preferred end is thinned out.** -/
theorem head?_thin (hits : List Hit) : (thin hits).head? = hits.head? := by
  match hits with
  | [] | [_] => rfl
  | h :: h' :: rest =>
    have hKept : [h].getLast? = some h := rfl
    have hLast := getLast?_foldl_keep hKept ((∅ : Std.HashSet Nat).insert h.stop) (h' :: rest)
    simp only [thin, List.head?_reverse]
    rw [List.foldl_cons]
    simpa using hLast

-- ---------------------------------------------------------------------------
-- The preferred end by form
-- ---------------------------------------------------------------------------

@[simp] theorem CharSet.has_single (c d : Char) : (CharSet.single c).has d = decide (d = c) := by
  rw [Bool.eq_iff_iff, decide_eq_true_iff, ← Char.toNat_inj]
  simp only [has, single, Text.inRanges, List.any_cons, List.any_nil, Bool.or_false,
    Bool.and_eq_true, decide_eq_true_eq]
  omega

/-- A group is met where its body is, which is what it catches. -/
theorem first?_group (index : Nat) :
    first? text (.group index p) h =
      (first? text p h).map fun g => ⟨g.stop, (index, h.stop, g.stop) :: g.groups⟩ := by
  rw [first?, hits, List.head?_map, first?]

/-- Behind a literal character an expression goes on one place further. -/
theorem first?_literal_seq {c : Char} :
    first? text (.seq (.one (.single c)) p) h = some g ↔
      text[h.stop]? = some c ∧ first? text p ⟨h.stop + 1, h.groups⟩ = some g := by
  rw [first?, hits, head?_thin]
  cases hChar : text[h.stop]? with
  | none => simp [hits, hChar]
  | some d =>
    by_cases hSame : d = c
    · simp [hits, hChar, hSame, first?]
    · simp [hits, hChar, hSame]

/-- A place of a text and the text behind it. -/
theorem drop_eq_cons_iff {i : Nat} {c : Char} {rest : List Char} :
    text.toList.drop i = c :: rest ↔ text[i]? = some c ∧ text.toList.drop (i + 1) = rest := by
  rw [← List.tail_drop, ← Array.getElem?_toList, ← List.head?_drop]
  cases text.toList.drop i <;> simp

/-- A run without a bound takes in all characters of its set that follow each other. -/
theorem runLength_none (set : CharSet) (text : Array Char) {fuel i : Nat}
    (hFuel : text.size ≤ i + fuel) :
    runLength set none text fuel i = ((text.toList.drop i).takeWhile set.has).length := by
  induction fuel generalizing i with
  | zero =>
    have hEnd : text.toList.drop i = [] := List.drop_eq_nil_of_le (by simpa using hFuel)
    rw [hEnd]
    rfl
  | succ fuel ih =>
    cases hChar : text[i]? with
    | none =>
      have hEnd : text.toList.drop i = [] :=
        List.drop_eq_nil_of_le (by simpa [Array.getElem?_eq_none_iff] using hChar)
      simp [runLength, hChar, hEnd]
    | some c =>
      have hDrop := drop_eq_cons_iff.mpr ⟨hChar, rfl⟩
      by_cases hHas : set.has c = true
      · simp [runLength, hChar, hDrop, hHas, ih (by omega : text.size ≤ i + 1 + fuel)]
      · simp [runLength, hChar, hDrop, hHas]

/-- A greedy repetition of a set prefers its whole run, which has to hold a character. -/
theorem first?_run {set : CharSet} :
    let run := (text.toList.drop h.stop).takeWhile set.has
    first? text (.many (.one set) 1 none true) h = some g ↔
      run ≠ [] ∧ g = ⟨h.stop + run.length, h.groups⟩ := by
  intro run
  have hLength : runLength set none text (text.size - h.stop) h.stop = run.length :=
    runLength_none set text (by omega)
  rw [first?, hits, hLength, runHits]
  cases hRun : run with
  | nil => simp
  | cons c rest =>
    have hStop : h.stop + 1 + rest.length = h.stop + (rest.length + 1) := by omega
    simp [List.range_succ, hStop, eq_comm]

-- ---------------------------------------------------------------------------
-- The first place
-- ---------------------------------------------------------------------------

theorem findFrom_of_first? {start : Nat} (hFirst : first? text p ⟨start, []⟩ = some g)
    (fuel : Nat) : findFrom p text fuel start = some ⟨start, g.stop, g.groups⟩ := by
  obtain ⟨rest, hHits⟩ := List.head?_eq_some_iff.mp hFirst
  cases fuel <;> simp [findFrom, hHits]

theorem findFrom_of_first?_eq_none {start : Nat} (hFirst : first? text p ⟨start, []⟩ = none)
    (fuel : Nat) : findFrom p text fuel start =
      match fuel with
      | 0 => none
      | fuel + 1 => findFrom p text fuel (start + 1) := by
  have hHits : hits text p ⟨start, []⟩ = [] := List.head?_eq_none_iff.mp hFirst
  cases fuel <;> simp [findFrom, hHits]

/-- What the search finds is the preferred match at its place, and it has passed no other. -/
theorem first?_of_findFrom {fuel start : Nat} {m : Match}
    (hFound : findFrom p text fuel start = some m) :
    first? text p ⟨m.start, []⟩ = some ⟨m.stop, m.groups⟩ ∧
      ∀ i, start ≤ i → i < m.start → first? text p ⟨i, []⟩ = none := by
  induction fuel generalizing start with
  | zero =>
    cases hFirst : first? text p ⟨start, []⟩ with
    | some g =>
      rw [findFrom_of_first? hFirst] at hFound
      cases hFound
      exact ⟨hFirst, fun i hFrom hLt => absurd hLt (Nat.not_lt.mpr hFrom)⟩
    | none =>
      rw [findFrom_of_first?_eq_none hFirst] at hFound
      cases hFound
  | succ fuel ih =>
    cases hFirst : first? text p ⟨start, []⟩ with
    | some g =>
      rw [findFrom_of_first? hFirst] at hFound
      cases hFound
      exact ⟨hFirst, fun i hFrom hLt => absurd hLt (Nat.not_lt.mpr hFrom)⟩
    | none =>
      rw [findFrom_of_first?_eq_none hFirst] at hFound
      obtain ⟨hHere, hBefore⟩ := ih hFound
      refine ⟨hHere, fun i hFrom hLt => ?_⟩
      obtain rfl | hBehind := Nat.eq_or_lt_of_le hFrom
      · exact hFirst
      · exact hBefore i hBehind hLt

/-- A search that finds nothing has passed no match. -/
theorem first?_of_findFrom_eq_none {fuel start : Nat}
    (hFound : findFrom p text fuel start = none) {i : Nat} (hFrom : start ≤ i)
    (hTo : i ≤ start + fuel) : first? text p ⟨i, []⟩ = none := by
  induction fuel generalizing start with
  | zero =>
    cases hFirst : first? text p ⟨start, []⟩ with
    | some g =>
      rw [findFrom_of_first? hFirst] at hFound
      cases hFound
    | none =>
      obtain rfl : i = start := by omega
      exact hFirst
  | succ fuel ih =>
    cases hFirst : first? text p ⟨start, []⟩ with
    | some g =>
      rw [findFrom_of_first? hFirst] at hFound
      cases hFound
    | none =>
      rw [findFrom_of_first?_eq_none hFirst] at hFound
      obtain rfl | hBehind := Nat.eq_or_lt_of_le hFrom
      · exact hFirst
      · exact ih hFound hBehind (by omega)

/-- **The match of a text is the preferred one at the first place with any.** -/
theorem first?_of_find? {m : Match} (hFound : p.find? text = some m) :
    first? text p ⟨m.start, []⟩ = some ⟨m.stop, m.groups⟩ ∧
      ∀ i < m.start, first? text p ⟨i, []⟩ = none := by
  obtain ⟨hHere, hBefore⟩ := first?_of_findFrom hFound
  exact ⟨hHere, fun i => hBefore i (Nat.zero_le i)⟩

/-- Where a text has no match no place of it has one. -/
theorem first?_of_find?_eq_none (hFound : p.find? text = none) {i : Nat} (hTo : i ≤ text.size) :
    first? text p ⟨i, []⟩ = none :=
  first?_of_findFrom_eq_none hFound (Nat.zero_le i) (by omega)

end Errand.Pattern
