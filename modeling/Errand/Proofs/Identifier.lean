import Errand.Proofs.Config.Accepted
import Errand.Proofs.Json.Exact
import Errand.Proofs.Pattern.Leftmost
import Errand.Tracker

/-!
# Errand — the id in a tracker's answer

Under the stock settings an id is `vc-` and at least one letter or digit. A structured answer
that names one says what the id is, whatever it looks like; in every other answer it is the
first text of that form, with all the letters and digits that follow. White space around the
answer matters to neither.

* `IsId`                   — the form of an id.
* `LeftmostId`             — the first id in a text, as long as it gets.
* `Named`                  — the id that a structured answer names.
* `structuredId?_eq_some_iff` — what is read from a structured answer.
* `first?_stockPattern`    — what the stock expression matches at a place.
* `leftmostId_of_patternId?` — what the stock expression finds in a text.
* `extractIssueId_stock`   — the id of any answer.
-/

namespace Errand

open Json (Acceptable Members Blanks Written)
open Pattern (first? drop_eq_cons_iff Hit Match)
open Text (Trimmed IsSpaces isSpace)

-- ---------------------------------------------------------------------------
-- What is meant
-- ---------------------------------------------------------------------------

/-- A lower-case letter of ASCII or a digit. -/
def isIdChar (c : Char) : Bool := c.isLower || c.isDigit

/-- The form of an id: `vc-` and at least one letter or digit, and nothing else. -/
def IsId (cs : List Char) : Prop :=
  ∃ tail, cs = 'v' :: 'c' :: '-' :: tail ∧ tail ≠ [] ∧ ∀ c ∈ tail, isIdChar c = true

/-- The text does not go on with a letter or a digit. -/
def EndsId (cs : List Char) : Prop := ∀ c ∈ cs.head?, isIdChar c = false

/-- Of all ids in a text none starts before this one, and no letter or digit follows it. -/
structure LeftmostId (cs id : List Char) : Prop where
  form : IsId id
  split : ∃ before after, cs = before ++ id ++ after ∧ EndsId after ∧
    ∀ before' id' after', cs = before' ++ id' ++ after' → IsId id' →
      before.length ≤ before'.length

/-- The answer is an object, and the last of its members `id` is a text that is not empty. -/
inductive Named (response : String) (id : String) : Prop
  | mk {body : List Char} {before after : List (String × Json)}
      (trimmed : Trimmed response.toList ('\x7b' :: (body ++ ['\x7d'])))
      (members : Members 126 body (before ++ ("id", .string id) :: after))
      (last : ∀ m ∈ after, m.1 ≠ "id") (filled : id ≠ "")

-- ---------------------------------------------------------------------------
-- Structured answers
-- ---------------------------------------------------------------------------

/-- An object has the value of the last member with a name. -/
theorem Json.get?_ofMembers_eq_some_iff {name : String} {v : Json} {ms : List (String × Json)} :
    (Json.ofMembers ms).get? name = some v ↔
      ∃ before after, ms = before ++ (name, v) :: after ∧ ∀ m ∈ after, m.1 ≠ name := by
  rw [Json.get?_ofMembers, Json.member?, Option.map_eq_some_iff]
  constructor
  · rintro ⟨⟨name', v'⟩, hFind, rfl⟩
    obtain ⟨hName, front, back, hSplit, hFront⟩ := List.find?_eq_some_iff_append.mp hFind
    obtain rfl : name' = name := by simpa using hName
    refine ⟨back.reverse, front.reverse, ?_, fun m hm => ?_⟩
    · rw [← List.reverse_inj, hSplit]
      simp
    · simpa using hFront m (List.mem_reverse.mp hm)
  · rintro ⟨before, after, rfl, hLast⟩
    refine ⟨(name, v), List.find?_eq_some_iff_append.mpr ⟨by simp, after.reverse, before.reverse,
      by simp, fun m hm => ?_⟩, rfl⟩
    simpa using hLast m (List.mem_reverse.mp hm)

theorem isSpace_of_blank {c : Char} (h : c ∈ [' ', '\t', '\n', '\r']) : isSpace c = true := by
  simp only [List.mem_cons, List.not_mem_nil, or_false] at h
  rcases h with rfl | rfl | rfl | rfl <;> decide

/-- A trimmed text that spells a value has no white space around that. -/
theorem Text.Trimmed.written {cs : List Char} {s : String} {v : Json} (h : Trimmed cs s.toList)
    (spells : Acceptable s v) : Written 127 s.toList v := by
  obtain ⟨-, hFirst, hLast⟩ := h
  rw [Acceptable] at spells
  generalize s.toList = text at hFirst hLast spells
  obtain ⟨before, written, after⟩ := spells
  rename_i w pre w'
  obtain rfl : w = [] := by
    cases w with
    | nil => rfl
    | cons c w =>
      have hSpace := isSpace_of_blank (before c (by simp))
      exact Bool.noConfusion (hSpace.symm.trans (hFirst c (by simp)))
  obtain rfl : w' = [] := by
    rcases List.eq_nil_or_concat w' with rfl | ⟨w', c, rfl⟩
    · rfl
    · have hSpace := isSpace_of_blank (after c (by simp))
      refine Bool.noConfusion (hSpace.symm.trans (hLast c ?_))
      simp
  simpa using written

theorem Json.asString?_eq_some_iff {v : Json} {s : String} :
    v.asString? = some s ↔ v = .string s := by
  cases v <;> simp [asString?]

/-- **The id of a structured answer is the one that is named.** -/
theorem structuredId?_eq_some_iff {response id : String} :
    structuredId? (Text.trim response) = some id ↔ Named response id := by
  have hTrimmed := Text.trimmed_trim response
  have hRead : structuredId? (Text.trim response) = some id ↔
      ∃ v, Acceptable (Text.trim response) v ∧ v.get? "id" = some (.string id) ∧ id ≠ "" := by
    simp only [structuredId?, Option.bind_eq_bind, Option.bind_eq_some_iff, Json.parse?_eq_some_iff,
      Json.asString?_eq_some_iff]
    simp
  rw [hRead]
  constructor
  · rintro ⟨v, hAccept, hId, hFilled⟩
    have hWritten := hTrimmed.written hAccept
    generalize hText : (Text.trim response).toList = text at hWritten
    rw [hText] at hTrimmed
    cases hWritten with
    | object members =>
      obtain ⟨before, after, rfl, hLast⟩ := Json.get?_ofMembers_eq_some_iff.mp hId
      exact .mk hTrimmed members hLast hFilled
    | emptyObject h => cases hId
    | _ => cases hId
  · rintro ⟨trimmed, members, hLast, hFilled⟩
    rename_i body before after
    refine ⟨_, ?_, Json.get?_ofMembers_eq_some_iff.mpr ⟨before, after, rfl, hLast⟩, hFilled⟩
    have hText : (Text.trim response).toList = '\x7b' :: (body ++ ['\x7d']) := by
      rw [trimmed.eq_trimChars, Text.trim, String.toList_ofList]
    rw [Acceptable, hText]
    simpa using Json.Spaced.mk Json.blanks_nil (.object members) Json.blanks_nil

-- ---------------------------------------------------------------------------
-- The letters and digits of an id
-- ---------------------------------------------------------------------------

theorem isSpace_of_isIdChar {c : Char} (h : isIdChar c = true) : isSpace c = false := by
  rcases Bool.or_eq_true_iff.mp h with hLower | hDigit
  · exact Text.isSpace_of_isLower hLower
  · exact Text.isSpace_of_isDigit hDigit

theorem IsId.ne_nil {id : List Char} (h : IsId id) : id ≠ [] := by
  obtain ⟨tail, rfl, -⟩ := h
  simp

/-- An id holds no white space. -/
theorem IsId.isSpace_eq_false {id : List Char} (h : IsId id) : ∀ c ∈ id, isSpace c = false := by
  obtain ⟨tail, rfl, -, hTail⟩ := h
  intro c hc
  simp only [List.mem_cons] at hc
  obtain rfl | rfl | rfl | hc := hc
  · exact Text.isSpace_of_ascii (by decide)
  · exact Text.isSpace_of_ascii (by decide)
  · exact Text.isSpace_of_ascii (by decide)
  · exact isSpace_of_isIdChar (hTail c hc)

/-- Letters and digits that are all that follow are what is taken from the front. -/
theorem EndsId.takeWhile_append {tail after : List Char} (hAfter : EndsId after)
    (hTail : ∀ c ∈ tail, isIdChar c = true) : (tail ++ after).takeWhile isIdChar = tail := by
  rw [List.takeWhile_append_of_pos hTail]
  cases after with
  | nil => simp
  | cons c after => simp [hAfter c rfl]

theorem endsId_dropWhile (cs : List Char) : EndsId (cs.dropWhile isIdChar) := by
  intro c hc
  have hNot := List.head?_dropWhile_not isIdChar cs
  rw [Option.mem_def.mp hc] at hNot
  exact hNot

/-- An id goes on to one that no letter or digit follows. -/
theorem IsId.grown {id : List Char} (h : IsId id) (after : List Char) :
    ∃ id' after', id ++ after = id' ++ after' ∧ IsId id' ∧ EndsId after' := by
  obtain ⟨tail, rfl, hNe, hTail⟩ := h
  refine ⟨'v' :: 'c' :: '-' :: (tail ++ after.takeWhile isIdChar), after.dropWhile isIdChar,
    by simp [List.takeWhile_append_dropWhile], ⟨_, rfl, by simp [hNe], fun c hc => ?_⟩,
    endsId_dropWhile after⟩
  obtain hc | hc := List.mem_append.mp hc
  · exact hTail c hc
  · exact List.all_eq_true.mp List.all_takeWhile c hc

/-- Only one id with nothing more to take in stands at the front of a text. -/
theorem IsId.unique {id id' after after' : List Char} (h : IsId id) (h' : IsId id')
    (hAfter : EndsId after) (hAfter' : EndsId after') (hSame : id ++ after = id' ++ after') :
    id = id' := by
  obtain ⟨tail, rfl, -, hTail⟩ := h
  obtain ⟨tail', rfl, -, hTail'⟩ := h'
  have hRest : tail ++ after = tail' ++ after' := by simpa using hSame
  rw [← hAfter.takeWhile_append hTail, hRest, hAfter'.takeWhile_append hTail']

theorem LeftmostId.isInfix {cs id : List Char} (h : LeftmostId cs id) : id <:+: cs := by
  obtain ⟨-, before, after, rfl, -⟩ := h
  exact ⟨before, after, rfl⟩

/-- **A text has at most one leftmost id.** -/
theorem LeftmostId.unique {cs id id' : List Char} (h : LeftmostId cs id) (h' : LeftmostId cs id') :
    id = id' := by
  obtain ⟨form, before, after, hSplit, hAfter, hFirst⟩ := h
  obtain ⟨form', before', after', hSplit', hAfter', hFirst'⟩ := h'
  have hLength : before.length = before'.length :=
    Nat.le_antisymm (hFirst _ _ _ hSplit' form') (hFirst' _ _ _ hSplit form)
  have hSame : before ++ (id ++ after) = before' ++ (id' ++ after') := by
    rw [← List.append_assoc, ← List.append_assoc, ← hSplit, ← hSplit']
  exact form.unique form' hAfter hAfter' (List.append_inj hSame hLength).2

-- ---------------------------------------------------------------------------
-- The stock expression
-- ---------------------------------------------------------------------------

theorem has_stockSet (c : Char) :
    (⟨[(48, 57), (97, 122)]⟩ : Pattern.CharSet).has c = isIdChar c := by
  rw [Bool.eq_iff_iff]
  simp [Pattern.CharSet.has, Text.inRanges, isIdChar, Char.isLower, Char.isDigit,
    UInt32.le_iff_toNat_le, or_comm]

/-- **The stock expression prefers the id at a place that no letter or digit follows.** -/
theorem first?_stockPattern {text : Array Char} {i : Nat} {g : Hit} :
    first? text stockPattern ⟨i, []⟩ = some g ↔
      ∃ id after, text.toList.drop i = id ++ after ∧ IsId id ∧ EndsId after ∧
        g = ⟨i + id.length, [(1, i, i + id.length)]⟩ := by
  simp only [stockPattern, Pattern.first?_group, Option.map_eq_some_iff,
    Pattern.first?_literal_seq, Pattern.first?_run]
  have hSet : Pattern.CharSet.has ⟨[(48, 57), (97, 122)]⟩ = isIdChar := funext has_stockSet
  rw [hSet]
  constructor
  · rintro ⟨g, ⟨hv, hc, hd, hNe, rfl⟩, rfl⟩
    have hDrop : text.toList.drop i = 'v' :: 'c' :: '-' :: text.toList.drop (i + 1 + 1 + 1) :=
      drop_eq_cons_iff.mpr ⟨hv, drop_eq_cons_iff.mpr ⟨hc, drop_eq_cons_iff.mpr ⟨hd, rfl⟩⟩⟩
    generalize text.toList.drop (i + 1 + 1 + 1) = rest at hDrop hNe
    refine ⟨'v' :: 'c' :: '-' :: rest.takeWhile isIdChar, rest.dropWhile isIdChar, ?_,
      ⟨_, rfl, hNe, List.all_eq_true.mp List.all_takeWhile⟩, endsId_dropWhile rest, ?_⟩
    · simp [hDrop, List.takeWhile_append_dropWhile]
    · simp [Nat.add_assoc, Nat.add_comm 3]
  · rintro ⟨_, after, hDrop, ⟨tail, rfl, hNe, hTail⟩, hAfter, rfl⟩
    obtain ⟨hv, hDrop⟩ := drop_eq_cons_iff.mp hDrop
    obtain ⟨hc, hDrop⟩ := drop_eq_cons_iff.mp hDrop
    obtain ⟨hd, hDrop⟩ := drop_eq_cons_iff.mp hDrop
    have hRun : (tail ++ after).takeWhile isIdChar = tail := hAfter.takeWhile_append hTail
    rw [show text.toList.drop (i + 1 + 1 + 1) = tail ++ after from hDrop, hRun]
    have hStop : i + 1 + 1 + 1 + tail.length = i + ('v' :: 'c' :: '-' :: tail).length := by
      simp only [List.length_cons]
      omega
    exact ⟨⟨i + 1 + 1 + 1 + tail.length, []⟩, ⟨hv, hc, hd, hNe, rfl⟩, by rw [hStop]⟩

/-- Where an id starts the stock expression has a match. -/
theorem IsId.first?_ne_none {text : Array Char} {before id after : List Char} (h : IsId id)
    (hSplit : text.toList = before ++ id ++ after) :
    first? text stockPattern ⟨before.length, []⟩ ≠ none := by
  obtain ⟨id', after', hGrown, form, hEnds⟩ := h.grown after
  have hDrop : text.toList.drop before.length = id' ++ after' := by
    rw [hSplit, List.append_assoc, List.drop_left, hGrown]
  rw [first?_stockPattern.mpr ⟨id', after', hDrop, form, hEnds, rfl⟩]
  nofun

/-- **What the stock expression finds in a text is the leftmost id**, -/
theorem leftmostId_of_patternId? {s id : String} (hFound : patternId? stockPattern s = some id) :
    LeftmostId s.toList id.toList := by
  have hText : s.toList.toArray.toList = s.toList := rfl
  obtain ⟨⟨start, stop, groups⟩, hMatch, hId⟩ := Option.map_eq_some_iff.mp hFound
  obtain ⟨hFirst, hBefore⟩ : first? s.toList.toArray stockPattern ⟨start, []⟩ =
      some ⟨stop, groups⟩ ∧ ∀ i < start, first? s.toList.toArray stockPattern ⟨i, []⟩ = none :=
    Pattern.first?_of_find? hMatch
  obtain ⟨word, after, hDrop, form, hEnds, hHit⟩ := first?_stockPattern.mp hFirst
  obtain ⟨rfl, rfl⟩ := Hit.mk.inj hHit
  rw [hText] at hDrop
  obtain rfl : String.ofList word = id := by
    simpa [Match.group?, Pattern.part, hDrop] using hId
  rw [String.toList_ofList]
  refine ⟨form, s.toList.take start, after, ?_, hEnds, ?_⟩
  · rw [List.append_assoc, ← hDrop, List.take_append_drop]
  · intro before' id' after' hSplit form'
    have hStart : (s.toList.take start).length ≤ start := List.length_take_le start s.toList
    by_contra hLess
    exact form'.first?_ne_none (hText.trans hSplit) (hBefore _ (by omega))

/-- and it finds nothing only where there is none. -/
theorem not_infix_of_patternId? {s : String} (hFound : patternId? stockPattern s = none)
    {id : List Char} (form : IsId id) : ¬ id <:+: s.toList := by
  have hMatch : stockPattern.find? s.toList.toArray = none := Option.map_eq_none_iff.mp hFound
  have hText : s.toList.toArray.toList = s.toList := rfl
  rintro ⟨before, after, hSplit⟩
  have hSize : before.length ≤ s.toList.toArray.size := by
    rw [List.size_toArray, ← hSplit]
    simp
  exact form.first?_ne_none (hText.trans hSplit.symm) (Pattern.first?_of_find?_eq_none hMatch hSize)

-- ---------------------------------------------------------------------------
-- White space around an answer
-- ---------------------------------------------------------------------------

section Around

variable {cs kept id : List Char}

/-- No id reaches into the white space around a text. -/
theorem IsId.infix_trimmed (h : IsId id) (hTrimmed : Trimmed cs kept) (hIn : id <:+: cs) :
    id <:+: kept := by
  obtain ⟨front, back, hSplit⟩ := hIn
  obtain ⟨before, after, rfl, hBefore, hAfter⟩ := hTrimmed.split
  obtain ⟨front', back', -, hKept⟩ :=
    hBefore.word_between hAfter h.isSpace_eq_false h.ne_nil hSplit.symm
  exact ⟨front', back', hKept.symm⟩

/-- The leftmost id is the same with the white space around a text. -/
theorem LeftmostId.of_trimmed (h : LeftmostId kept id) (hTrimmed : Trimmed cs kept) :
    LeftmostId cs id := by
  obtain ⟨before, after, rfl, hBefore, hAfter⟩ := hTrimmed.split
  obtain ⟨form, front, back, rfl, hEnds, hFirst⟩ := h
  refine ⟨form, before ++ front, back ++ after, by simp, ?_, ?_⟩
  · intro c hc
    cases back with
    | cons d back => exact hEnds c hc
    | nil =>
      have hSpace := hAfter c (List.mem_of_mem_head? hc)
      by_contra hIdChar
      exact Bool.noConfusion (hSpace.symm.trans (isSpace_of_isIdChar (by simpa using hIdChar)))
  · intro front' id' back' hSplit form'
    obtain ⟨front'', back'', rfl, hKept⟩ :=
      hBefore.word_between hAfter form'.isSpace_eq_false form'.ne_nil hSplit
    have hLe := hFirst front'' id' back'' hKept form'
    simpa using hLe

end Around

-- ---------------------------------------------------------------------------
-- The theorem
-- ---------------------------------------------------------------------------

/-- The id of an answer, if it names one or holds one. -/
structure Identifies (response : String) (found : Option String) : Prop where
  named : ∀ id, Named response id → found = some id
  /-- In an answer that names none it is the leftmost one, -/
  leftmost : (¬ ∃ id, Named response id) →
    ∀ id, found = some id ↔ LeftmostId response.toList id.toList
  /-- and there is none in exactly the answers without one. -/
  absent : (¬ ∃ id, Named response id) →
    (found = none ↔ ∀ id, IsId id → ¬ id <:+: response.toList)
  filled : found ≠ some ""

theorem Named.identifies {response id : String} (named : Named response id) :
    Identifies response (extractIssueId stockPattern response) := by
  have hFound : extractIssueId stockPattern response = some id := by
    rw [extractIssueId, structuredId?_eq_some_iff.mpr named, Option.some_or]
  rw [hFound]
  exact {
    named := fun id' named' => by
      rw [← structuredId?_eq_some_iff.mpr named, structuredId?_eq_some_iff.mpr named']
    leftmost := fun hNone => absurd ⟨id, named⟩ hNone
    absent := fun hNone => absurd ⟨id, named⟩ hNone
    filled := by
      obtain ⟨-, -, -, hFilled⟩ := named
      simpa using hFilled }

theorem identifies_of_not_named {response : String} (hNamed : ¬ ∃ id, Named response id) :
    Identifies response (extractIssueId stockPattern response) := by
  have hFound : extractIssueId stockPattern response =
      patternId? stockPattern (Text.trim response) := by
    have hNone : structuredId? (Text.trim response) = none :=
      Option.eq_none_iff_forall_ne_some.mpr fun id hId =>
        hNamed ⟨id, structuredId?_eq_some_iff.mp hId⟩
    rw [extractIssueId, hNone, Option.none_or]
  have hTrimmed := Text.trimmed_trim response
  have hLeftmost {id : String} (h : patternId? stockPattern (Text.trim response) = some id) :
      LeftmostId response.toList id.toList := (leftmostId_of_patternId? h).of_trimmed hTrimmed
  have hAbsent (h : patternId? stockPattern (Text.trim response) = none) {id : List Char}
      (form : IsId id) : ¬ id <:+: response.toList := fun hIn =>
    not_infix_of_patternId? h form (form.infix_trimmed hTrimmed hIn)
  rw [hFound]
  exact {
    named := fun id named => absurd ⟨id, named⟩ hNamed
    leftmost := by
      refine fun _ id => ⟨hLeftmost, fun h => ?_⟩
      cases hOwn : patternId? stockPattern (Text.trim response) with
      | none => exact absurd h.isInfix (hAbsent hOwn h.form)
      | some id' => rw [String.toList_inj.mp ((hLeftmost hOwn).unique h)]
    absent := by
      refine fun _ => ⟨fun h _ => hAbsent h, fun h => ?_⟩
      cases hOwn : patternId? stockPattern (Text.trim response) with
      | none => rfl
      | some id' => exact absurd (hLeftmost hOwn).isInfix (h _ (hLeftmost hOwn).form)
    filled := fun h => (hLeftmost h).form.ne_nil rfl }

/-- **The id of an answer under the stock settings** is the one that the answer names, or else
the leftmost one in it. -/
theorem extractIssueId_stock (response : String) :
    ∃ pattern, Pattern.read? ({} : TrackerSettings).idPattern = some pattern ∧
      Identifies response (extractIssueId pattern response) := by
  refine ⟨stockPattern, read?_stock, ?_⟩
  by_cases hNamed : ∃ id, Named response id
  · obtain ⟨id, named⟩ := hNamed
    exact named.identifies
  · exact identifies_of_not_named hNamed

/-- A dash is no letter, and an empty id names nothing. -/
example : extractIssueId stockPattern "\x7b\"id\": \"\", \"note\": \"vc-, vc-vc-1\"\x7d" =
    some "vc-vc" := by cbv

end Errand
