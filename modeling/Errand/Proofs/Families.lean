import Mathlib
import Errand.Cancel

/-!
# Errand — families of cancel tokens

Which tokens share a flag can be read off the steps alone: a token is tied to the one that it
was copied from, and a family is whatever such ties connect, in either direction and over any
number of copies. A token counts as cancelled exactly if some member of its family was hit by
then, whether the copies were made before or after the hit.

* `Tokens.Came`      — a step was taken when there were so many tokens.
* `Tokens.Copied`, `Tokens.Hit` — a token was copied from another; a token was cancelled.
* `Tokens.Kin`       — two tokens are of one family.
* `isCancelled_iff`  — a token is cancelled exactly if its family was hit.
* `cancelled_by_family` — what holds after any steps, and what one more step can change.
-/

namespace Errand.Tokens

open Relation (EqvGen)

variable {steps : List Step} {s x : Step} {i j n family : Nat}

-- ---------------------------------------------------------------------------
-- Families, by the steps alone
-- ---------------------------------------------------------------------------

/-- How many tokens there are after a step; only a token that is there can be copied. -/
def Step.count (n : Nat) : Step → Nat
  | .create => n + 1
  | .copy i => if i < n then n + 1 else n
  | .cancel _ => n

/-- How many tokens some steps make. -/
def made (steps : List Step) : Nat := steps.foldl Step.count 0

/-- Among the steps was this one, at a time when there were so many tokens. -/
def Came (steps : List Step) (s : Step) (n : Nat) : Prop :=
  ∃ before later, steps = before ++ s :: later ∧ made before = n

/-- A token was made as a copy of another; its index is how many tokens there were before it. -/
def Copied (steps : List Step) (i j : Nat) : Prop := Came steps (.copy i) j ∧ i < j

/-- A token that was there was cancelled. -/
def Hit (steps : List Step) (i : Nat) : Prop := ∃ n, Came steps (.cancel i) n ∧ i < n

/-- Two tokens are connected by copying, in either direction and over any number of copies. -/
def Kin (steps : List Step) : Nat → Nat → Prop := EqvGen (Copied steps)

-- ---------------------------------------------------------------------------
-- Families after one more step
-- ---------------------------------------------------------------------------

@[simp]
theorem made_nil : made [] = 0 := rfl

@[simp]
theorem made_append_singleton : made (steps ++ [s]) = s.count (made steps) := by
  simp [made]

theorem not_came_nil : ¬ Came [] s n := by
  rintro ⟨before, later, h, -⟩
  simp at h

theorem came_append_singleton :
    Came (steps ++ [x]) s n ↔ Came steps s n ∨ s = x ∧ made steps = n := by
  constructor
  · rintro ⟨before, later, h, hMade⟩
    obtain rfl | ⟨later, last, rfl⟩ := later.eq_nil_or_concat
    · obtain ⟨rfl, hLast⟩ := List.append_inj' h rfl
      exact .inr ⟨(List.singleton_inj.mp hLast).symm, hMade⟩
    · rw [List.concat_eq_append, ← List.cons_append, ← List.append_assoc] at h
      obtain ⟨rfl, -⟩ := List.append_inj' h rfl
      exact .inl ⟨before, later, rfl, hMade⟩
  · rintro (⟨before, later, rfl, hMade⟩ | ⟨rfl, hMade⟩)
    · exact ⟨before, later ++ [x], by simp, hMade⟩
    · exact ⟨steps, [], rfl, hMade⟩

theorem copied_append_singleton :
    Copied (steps ++ [x]) i j ↔
      Copied steps i j ∨ x = .copy i ∧ i < made steps ∧ made steps = j := by
  rw [Copied, came_append_singleton, Copied, or_and_right, @eq_comm _ (Step.copy i)]
  refine or_congr_right ?_
  constructor
  · rintro ⟨⟨hStep, rfl⟩, hLt⟩
    exact ⟨hStep, hLt, rfl⟩
  · rintro ⟨hStep, hLt, rfl⟩
    exact ⟨⟨hStep, rfl⟩, hLt⟩

theorem hit_append_singleton :
    Hit (steps ++ [x]) i ↔ Hit steps i ∨ x = .cancel i ∧ i < made steps := by
  simp only [Hit, came_append_singleton, or_and_right, exists_or, @eq_comm _ (Step.cancel i)]
  refine or_congr_right ?_
  constructor
  · rintro ⟨n, ⟨hStep, rfl⟩, hLt⟩
    exact ⟨hStep, hLt⟩
  · rintro ⟨hStep, hLt⟩
    exact ⟨_, ⟨hStep, rfl⟩, hLt⟩

/-- Who is kin stays kin. -/
theorem Kin.append_singleton (h : Kin steps i j) : Kin (steps ++ [x]) i j :=
  EqvGen.mono (fun _ _ hCopied => copied_append_singleton.mpr (.inl hCopied)) _ _ h

-- ---------------------------------------------------------------------------
-- What a step does
-- ---------------------------------------------------------------------------

/-- What a step does: nothing, if the token that it names is not there. -/
inductive Moves (t : Tokens) : Step → Tokens → Prop
  | create : Moves t .create
      { t with families := t.families ++ [t.familyCount], familyCount := t.familyCount + 1 }
  | copy {k f : Nat} (h : t.families[k]? = some f) :
      Moves t (.copy k) { t with families := t.families ++ [f] }
  | cancel {k f : Nat} (h : t.families[k]? = some f) :
      Moves t (.cancel k) { t with cancelled := f :: t.cancelled }
  | copyNone {k : Nat} (h : t.families[k]? = none) : Moves t (.copy k) t
  | cancelNone {k : Nat} (h : t.families[k]? = none) : Moves t (.cancel k) t

theorem step_moves (t : Tokens) (s : Step) : t.Moves s (t.step s) := by
  cases s with
  | create => exact .create
  | copy k =>
    rw [step, Tokens.copy]
    split
    · exact .copy ‹_›
    · exact .copyNone ‹_›
  | cancel k =>
    rw [step, Tokens.cancel]
    split
    · exact .cancel ‹_›
    · exact .cancelNone ‹_›

theorem getElem?_append_singleton_eq_some_iff {l : List Nat} {a b : Nat} :
    (l ++ [a])[i]? = some b ↔ l[i]? = some b ∨ i = l.length ∧ a = b := by
  obtain hLt | rfl | hGt := lt_trichotomy i l.length
  · simp [List.getElem?_append_left hLt, hLt.ne]
  · simp
  · have hNone : [a][i - l.length]? = none := List.getElem?_eq_none (Nat.sub_pos_of_lt hGt)
    simp [List.getElem?_append_right hGt.le, hNone, List.getElem?_eq_none hGt.le, hGt.ne']

section Step

variable {t t' : Tokens}

/-- The family of a token stays as it is. -/
theorem Moves.families (h : t.Moves s t') (hi : t.families[i]? = some family) :
    t'.families[i]? = some family := by
  cases h with
  | create => exact getElem?_append_singleton_eq_some_iff.mpr (.inl hi)
  | copy _ => exact getElem?_append_singleton_eq_some_iff.mpr (.inl hi)
  | cancel _ => exact hi
  | copyNone _ => exact hi
  | cancelNone _ => exact hi

theorem Moves.length (h : t.Moves s t') : t'.families.length = s.count t.families.length := by
  cases h with
  | create => simp [Step.count]
  | copy hk => simp [Step.count, (List.getElem?_eq_some_iff.mp hk).1]
  | cancel _ => rfl
  | copyNone hk => simp [Step.count, (List.getElem?_eq_none_iff.mp hk).not_gt]
  | cancelNone _ => rfl

/-- The number of a new family is the count of families, so no token is of that family yet. -/
theorem Moves.lt_familyCount (h : t.Moves s t') (hOld : ∀ f ∈ t.families, f < t.familyCount) :
    ∀ f ∈ t'.families, f < t'.familyCount := by
  intro f hf
  cases h with
  | create =>
    rcases List.mem_append.mp hf with hf | hf
    · exact Nat.lt_succ_of_lt (hOld f hf)
    · exact List.mem_singleton.mp hf ▸ Nat.lt_succ_self _
  | copy hk =>
    rcases List.mem_append.mp hf with hf | hf
    · exact hOld f hf
    · rw [List.mem_singleton.mp hf]
      exact hOld _ (List.mem_of_getElem? hk)
  | cancel _ => exact hOld f hf
  | copyNone _ => exact hOld f hf
  | cancelNone _ => exact hOld f hf

/-- No family is ever un-cancelled. -/
theorem Moves.cancelled (h : t.Moves s t') (hf : family ∈ t.cancelled) : family ∈ t'.cancelled := by
  cases h with
  | create => exact hf
  | copy _ => exact hf
  | cancel _ => exact List.mem_cons_of_mem _ hf
  | copyNone _ => exact hf
  | cancelNone _ => exact hf

theorem isCancelled_iff_family :
    t.isCancelled i = true ↔ ∃ f, t.families[i]? = some f ∧ f ∈ t.cancelled := by
  rw [isCancelled]
  cases t.families[i]? with
  | none => simp
  | some f => simp

end Step

-- ---------------------------------------------------------------------------
-- The tokens after some steps
-- ---------------------------------------------------------------------------

/-- The tokens after some steps. -/
def after (steps : List Step) : Tokens := steps.foldl step {}

@[simp]
theorem after_nil : after [] = {} := rfl

@[simp]
theorem after_append_singleton : after (steps ++ [s]) = (after steps).step s := by
  simp [after]

theorem after_moves (steps : List Step) (s : Step) :
    (after steps).Moves s (after (steps ++ [s])) := by
  rw [after_append_singleton]
  exact step_moves _ s

theorem length_families (steps : List Step) : (after steps).families.length = made steps := by
  induction steps using List.reverseRecOn with
  | nil => rfl
  | append_singleton steps s ih => rw [(after_moves steps s).length, made_append_singleton, ih]

theorem exists_family_iff : (∃ f, (after steps).families[i]? = some f) ↔ i < made steps := by
  rw [← length_families, ← Option.isSome_iff_exists, isSome_getElem?]

theorem lt_familyCount (steps : List Step) :
    ∀ f ∈ (after steps).families, f < (after steps).familyCount := by
  induction steps using List.reverseRecOn with
  | nil => simp
  | append_singleton steps s ih => exact (after_moves steps s).lt_familyCount ih

-- ---------------------------------------------------------------------------
-- Families are what copying connects
-- ---------------------------------------------------------------------------

/-- A copy is of the family of the token that it was copied from. -/
theorem Copied.families (h : Copied steps i j) :
    ∃ f, (after steps).families[i]? = some f ∧ (after steps).families[j]? = some f := by
  induction steps using List.reverseRecOn with
  | nil => exact absurd h.1 not_came_nil
  | append_singleton steps s ih =>
    have hMoves := after_moves steps s
    rcases copied_append_singleton.mp h with hOld | ⟨rfl, hLt, rfl⟩
    · obtain ⟨f, hi, hj⟩ := ih hOld
      exact ⟨f, hMoves.families hi, hMoves.families hj⟩
    · obtain ⟨f, hf⟩ := exists_family_iff.mpr hLt
      refine ⟨f, hMoves.families hf, ?_⟩
      rw [after_append_singleton, step, copy, hf]
      exact getElem?_append_singleton_eq_some_iff.mpr (.inr ⟨(length_families steps).symm, rfl⟩)

theorem Kin.families (h : Kin steps i j) :
    (after steps).families[i]? = (after steps).families[j]? := by
  induction h with
  | rel i j hCopied =>
    obtain ⟨f, hi, hj⟩ := hCopied.families
    rw [hi, hj]
  | refl i => rfl
  | symm i j _ ih => exact ih.symm
  | trans i j k _ _ ih₁ ih₂ => exact ih₁.trans ih₂

/-- Tokens of one family are connected: a new one is alone in its family, or a copy. -/
theorem kin_of_families (hi : (after steps).families[i]? = some family)
    (hj : (after steps).families[j]? = some family) : Kin steps i j := by
  induction steps using List.reverseRecOn generalizing i j with
  | nil => simp at hi
  | append_singleton steps s ih =>
    have hMoves := after_moves steps s
    generalize after (steps ++ [s]) = t' at hi hj hMoves
    cases hMoves with
    | create =>
      have hNew {m : Nat} : (after steps).families[m]? ≠ some (after steps).familyCount :=
        fun hm => (lt_familyCount steps _ (List.mem_of_getElem? hm)).false
      rcases getElem?_append_singleton_eq_some_iff.mp hi with hi | ⟨rfl, rfl⟩
      · rcases getElem?_append_singleton_eq_some_iff.mp hj with hj | ⟨-, rfl⟩
        · exact (ih hi hj).append_singleton
        · exact absurd hi hNew
      · rcases getElem?_append_singleton_eq_some_iff.mp hj with hj | ⟨rfl, -⟩
        · exact absurd hj hNew
        · exact .refl _
    | @copy k f hk =>
      -- Every member of the family is connected with one that was there before the copy.
      have hOld {m : Nat} (hm : ((after steps).families ++ [f])[m]? = some family) :
          ∃ m', (after steps).families[m']? = some family ∧ Kin (steps ++ [.copy k]) m' m := by
        rcases getElem?_append_singleton_eq_some_iff.mp hm with hm | ⟨rfl, rfl⟩
        · exact ⟨m, hm, .refl _⟩
        · refine ⟨k, hk, .rel _ _ (copied_append_singleton.mpr (.inr ⟨rfl, ?_, ?_⟩))⟩
          · exact exists_family_iff.mp ⟨_, hk⟩
          · exact (length_families steps).symm
      obtain ⟨i', hi', hKinI⟩ := hOld hi
      obtain ⟨j', hj', hKinJ⟩ := hOld hj
      exact (hKinI.symm.trans _ _ _ (ih hi' hj').append_singleton).trans _ _ _ hKinJ
    | cancel _ => exact (ih hi hj).append_singleton
    | copyNone _ => exact (ih hi hj).append_singleton
    | cancelNone _ => exact (ih hi hj).append_singleton

-- ---------------------------------------------------------------------------
-- Cancelled families
-- ---------------------------------------------------------------------------

/-- The family of a token that was hit is cancelled, and stays so. -/
theorem Hit.cancelled (h : Hit steps j) :
    ∃ f, (after steps).families[j]? = some f ∧ f ∈ (after steps).cancelled := by
  induction steps using List.reverseRecOn with
  | nil =>
    obtain ⟨n, hCame, -⟩ := h
    exact absurd hCame not_came_nil
  | append_singleton steps s ih =>
    have hMoves := after_moves steps s
    rcases hit_append_singleton.mp h with hOld | ⟨rfl, hLt⟩
    · obtain ⟨f, hj, hf⟩ := ih hOld
      exact ⟨f, hMoves.families hj, hMoves.cancelled hf⟩
    · obtain ⟨f, hj⟩ := exists_family_iff.mpr hLt
      refine ⟨f, hMoves.families hj, ?_⟩
      rw [after_append_singleton, step, cancel, hj]
      exact List.mem_cons_self

/-- A family is cancelled only by a hit on one of its members. -/
theorem exists_hit (h : family ∈ (after steps).cancelled) :
    ∃ j, Hit steps j ∧ (after steps).families[j]? = some family := by
  induction steps using List.reverseRecOn with
  | nil => simp at h
  | append_singleton steps s ih =>
    have hMoves := after_moves steps s
    -- A hit from before the step, on a token that keeps its family.
    have hEarlier (hf : family ∈ (after steps).cancelled) :
        ∃ j, Hit (steps ++ [s]) j ∧ (after (steps ++ [s])).families[j]? = some family := by
      obtain ⟨j, hHit, hj⟩ := ih hf
      exact ⟨j, hit_append_singleton.mpr (.inl hHit), hMoves.families hj⟩
    generalize after (steps ++ [s]) = t' at h hMoves hEarlier
    cases hMoves with
    | create => exact hEarlier h
    | copy _ => exact hEarlier h
    | @cancel k f hk =>
      rcases List.mem_cons.mp h with rfl | h
      · exact ⟨k, hit_append_singleton.mpr (.inr ⟨rfl, exists_family_iff.mp ⟨_, hk⟩⟩), hk⟩
      · exact hEarlier h
    | copyNone _ => exact hEarlier h
    | cancelNone _ => exact hEarlier h

theorem isCancelled_iff :
    (after steps).isCancelled i = true ↔ ∃ j, Kin steps i j ∧ Hit steps j := by
  rw [isCancelled_iff_family]
  constructor
  · rintro ⟨f, hi, hf⟩
    obtain ⟨j, hHit, hj⟩ := exists_hit hf
    exact ⟨j, kin_of_families hi hj, hHit⟩
  · rintro ⟨j, hKin, hHit⟩
    obtain ⟨f, hj, hf⟩ := hHit.cancelled
    exact ⟨f, hKin.families.trans hj, hf⟩

theorem check_eq_error_iff {t : Tokens} :
    t.check i = .error .interrupted ↔ t.isCancelled i = true := by
  rw [check]
  cases t.isCancelled i <;> simp

theorem check_eq_ok_iff {t : Tokens} : t.check i = .ok () ↔ t.isCancelled i = false := by
  rw [check]
  cases t.isCancelled i <;> simp

-- ---------------------------------------------------------------------------
-- What a step leaves alone
-- ---------------------------------------------------------------------------

/-- To cancel a token says nothing about the tokens of other families. -/
theorem isCancelled_cancel_of_not_kin (h : ¬ Kin steps i j) :
    (after (steps ++ [.cancel j])).isCancelled i = (after steps).isCancelled i := by
  rw [Bool.eq_iff_iff, isCancelled_iff_family, isCancelled_iff_family]
  have hMoves := after_moves steps (.cancel j)
  generalize after (steps ++ [.cancel j]) = t' at hMoves
  cases hMoves with
  | @cancel _ g hj =>
    refine exists_congr fun f => and_congr_right fun hi => ?_
    rw [List.mem_cons, or_iff_right]
    rintro rfl
    exact h (kin_of_families hi hj)
  | cancelNone _ => rfl

/-- No step un-cancels a token. -/
theorem isCancelled_append_singleton (h : (after steps).isCancelled i = true) :
    (after (steps ++ [s])).isCancelled i = true := by
  obtain ⟨f, hi, hf⟩ := isCancelled_iff_family.mp h
  have hMoves := after_moves steps s
  exact isCancelled_iff_family.mpr ⟨f, hMoves.families hi, hMoves.cancelled hf⟩

theorem states_eq (t : Tokens) :
    t.states = (List.range t.families.length).map t.isCancelled := by
  refine List.ext_getElem (by simp [states]) fun i hi _ => ?_
  have hLt : i < t.families.length := by simpa [states] using hi
  simp [states, isCancelled, List.getElem?_eq_getElem hLt]

theorem history_eq (t : Tokens) (steps : List Step) :
    t.history steps =
      (List.range steps.length).map fun n => ((steps.take (n + 1)).foldl step t).states := by
  induction steps generalizing t with
  | nil => rfl
  | cons s steps ih =>
    rw [history, ih, List.length_cons, List.range_succ_eq_map, List.map_cons, List.map_map]
    rfl

-- ---------------------------------------------------------------------------
-- All steps
-- ---------------------------------------------------------------------------

/-- What holds of the tokens after some steps, by the steps alone. -/
structure Families (steps : List Step) : Prop where
  /-- After each step every token made so far is seen as it is, in the order of making. -/
  seen : history {} steps = (List.range steps.length).map fun n =>
    let past := steps.take (n + 1)
    (List.range (made past)).map (after past).isCancelled
  /-- A token is cancelled exactly if a member of its family was hit, -/
  cancelled_iff : ∀ i, (after steps).isCancelled i = true ↔ ∃ j, Kin steps i j ∧ Hit steps j
  /-- which is when its check is an interrupt, -/
  interrupted_iff : ∀ i,
    (after steps).check i = .error .interrupted ↔ ∃ j, Kin steps i j ∧ Hit steps j
  /-- and else nothing stops its holder. -/
  ok_iff : ∀ i, (after steps).check i = .ok () ↔ ¬ ∃ j, Kin steps i j ∧ Hit steps j
  /-- To cancel one family changes nothing for the others. -/
  apart : ∀ i j, ¬ Kin steps i j →
    (after (steps ++ [.cancel j])).isCancelled i = (after steps).isCancelled i
  /-- Whatever is done next, what is cancelled stays so. -/
  lasting : ∀ i s, (after steps).isCancelled i = true →
    (after (steps ++ [s])).isCancelled i = true

/-- **A token is cancelled exactly if its family was hit**, after any steps. -/
theorem cancelled_by_family (steps : List Step) : Families steps where
  seen := by
    rw [history_eq]
    refine List.map_congr_left fun n _ => ?_
    simp only [states_eq, ← length_families, after]
  cancelled_iff _ := isCancelled_iff
  interrupted_iff _ := check_eq_error_iff.trans isCancelled_iff
  ok_iff _ := by rw [check_eq_ok_iff, ← Bool.not_eq_true, isCancelled_iff]
  apart _ _ := isCancelled_cancel_of_not_kin
  lasting _ _ := isCancelled_append_singleton

/-- A copy made after the hit is cancelled too, a token of another family is not. -/
example : history {} [.create, .copy 0, .cancel 1, .create, .copy 0] =
    [[false], [false, false], [true, true], [true, true, false], [true, true, false, true]] := by
  decide

end Errand.Tokens
