import Mathlib
import Errand.Number.Arithmetic
import Errand.Result.Decode

/-!
# Errand — the values that hold a result

Which structured values hold the result of an agent, said field by field. Two
gates decide it in turn: the format of a result, which knows kinds and a lower
bound, and then the whole numbers, which have to be in range. `Conforms` is what
the two come to together.

* `Json.Number.Denotes` — the integer that a number stands for, however written.
* `Conforms`            — the fields of an object that holds a result.
* `exists_ofJson_iff`   — exactly these values hold one.
-/

namespace Errand

open Number (Double)
open ResultFormat

-- ---------------------------------------------------------------------------
-- The values of numbers
-- ---------------------------------------------------------------------------

namespace Number.Double

/-- The signed value as a multiple of `2⁻¹⁰⁷⁴`. -/
def units (d : Double) : Int := if d.isNegative then -(d.scaled : Int) else d.scaled

theorem units?_eq_some_iff {d : Double} {u : Int} :
    d.units? = some u ↔ d.isFinite = true ∧ d.units = u := by
  unfold units? units
  split
  · rename_i h
    simp [h]
  · rename_i h
    simp [h]

theorem isBelowZero_iff {d : Double} : d.isBelowZero = true ↔ d.units < 0 := by
  unfold isBelowZero isZero units
  cases d.isNegative with
  | false => simp
  | true =>
    simp only [Bool.true_and, Bool.not_eq_true', decide_eq_false_iff_not, if_true]
    omega

theorem unitsPerOne_pos : 0 < unitsPerOne := by
  delta unitsPerOne
  generalize 1074 = n
  exact Nat.two_pow_pos n

/-- The integer that a whole double equals is its value in units of one. -/
theorem toInt?_eq_some_iff {d : Double} {k : Int} :
    d.toInt? = some k ↔ d.units? = some (k * unitsPerOne) := by
  have hNe : (unitsPerOne : Int) ≠ 0 := Int.natCast_ne_zero.mpr (Nat.ne_of_gt unitsPerOne_pos)
  rw [units?_eq_some_iff, toInt?]
  split
  · rename_i hWhole
    obtain ⟨hFinite, hMod⟩ : d.isFinite = true ∧ d.scaled % unitsPerOne = 0 := by
      simpa [isWhole] using hWhole
    -- the value is the quotient, with its sign, times the units of one
    have hScaled : (d.scaled : Int) = (d.scaled / unitsPerOne : Nat) * unitsPerOne := by
      exact_mod_cast (Nat.div_mul_cancel (Nat.dvd_of_mod_eq_zero hMod)).symm
    have hUnits : d.units = (if d.isNegative then -((d.scaled / unitsPerOne : Nat) : Int)
        else (d.scaled / unitsPerOne : Nat)) * unitsPerOne := by
      unfold units
      split
      · rw [Int.neg_mul, ← hScaled]
      · exact hScaled
    rw [hUnits, Option.some.injEq, Int.mul_eq_mul_right_iff hNe]
    exact ⟨fun h => ⟨hFinite, h⟩, fun h => h.2⟩
  · rename_i hWhole
    constructor
    · intro h
      cases h
    · rintro ⟨hFinite, hUnits⟩
      refine absurd ?_ hWhole
      have hDvd : (unitsPerOne : Int) ∣ d.scaled := by
        unfold units at hUnits
        split at hUnits
        · exact ⟨-k, by rw [Int.mul_neg, Int.mul_comm, ← hUnits, Int.neg_neg]⟩
        · exact ⟨k, by rw [Int.mul_comm, ← hUnits]⟩
      simp only [isWhole, hFinite, Bool.true_and, decide_eq_true_eq]
      exact Nat.mod_eq_zero_of_dvd (Int.natCast_dvd_natCast.mp hDvd)

theorem isWhole_iff {d : Double} :
    d.isWhole = true ↔ ∃ k : Int, d.units? = some (k * unitsPerOne) := by
  simp only [← toInt?_eq_some_iff]
  constructor
  · intro h
    exact ⟨_, if_pos h⟩
  · rintro ⟨k, hk⟩
    rw [toInt?] at hk
    split at hk
    · assumption
    · cases hk

end Number.Double

/-- The integer that a number stands for, whether it is written with a point or not. -/
def Json.Number.Denotes : Json.Number → Int → Prop
  | .int n, k => n = k
  | .double d, k => d.units? = some (k * Double.unitsPerOne)

/-- The number is not below zero. -/
def Json.Number.AtLeastZero : Json.Number → Prop
  | .int n => 0 ≤ n
  | .double d => 0 ≤ d.units

theorem wholeNumber?_eq_some_iff {d : Double} {k : Int} :
    wholeNumber? d = some k ↔ Json.Number.Denotes (.double d) k ∧ k.natAbs < 10 ^ 18 := by
  have hLimit : wholeLimit = 10 ^ 18 := rfl
  simp only [Json.Number.Denotes, ← Double.toInt?_eq_some_iff, wholeNumber?, hLimit]
  split
  · rename_i n hEq
    rw [hEq, Option.some.injEq]
    split
    · rename_i hn
      rw [Option.some.injEq]
      exact ⟨fun h => ⟨h, h ▸ hn⟩, fun h => h.1⟩
    · rename_i hn
      constructor
      · intro h
        cases h
      · rintro ⟨rfl, hk⟩
        exact absurd hk hn
  · rename_i hEq
    simp [hEq]

/-- A number of iterations is an integer that fits 32 bits. -/
theorem exists_count?_iff {n : Json.Number} :
    (∃ c, count? n = some c) ↔ ∃ k, n.Denotes k ∧ 0 ≤ k ∧ k ≤ 4294967295 := by
  have hMax : (maxCount : Int) = 4294967295 := rfl
  have hWhole : ∀ k : Int, (∃ c, (if 0 ≤ k ∧ k ≤ (maxCount : Int) then some k.toNat else none) =
      some c) ↔ 0 ≤ k ∧ k ≤ 4294967295 := by
    intro k
    rw [hMax]
    split <;> simp_all
  cases n with
  | int k => simpa [count?, Json.Number.Denotes] using hWhole k
  | double d =>
    have hCount : (∃ c, count? (.double d) = some c) ↔
        ∃ k, wholeNumber? d = some k ∧ 0 ≤ k ∧ k ≤ 4294967295 := by
      simp only [count?]
      split
      · rename_i k hEq
        simpa [hEq] using hWhole k
      · rename_i hEq
        simp [hEq]
    rw [hCount]
    simp only [wholeNumber?_eq_some_iff]
    constructor
    · rintro ⟨k, ⟨hk, -⟩, hRange⟩
      exact ⟨k, hk, hRange⟩
    · rintro ⟨k, hk, hRange⟩
      exact ⟨k, ⟨hk, by omega⟩, hRange⟩

theorem Json.Number.Denotes.atLeastZero {n : Json.Number} {k : Int} (h : n.Denotes k)
    (hk : 0 ≤ k) : n.AtLeastZero := by
  cases n with
  | int m => exact (show m = k from h) ▸ hk
  | double d =>
    show 0 ≤ d.units
    rw [(Double.units?_eq_some_iff.mp h).2]
    exact Int.mul_nonneg hk (Int.natCast_nonneg _)

theorem isBelowZero_number {n : Json.Number} :
    isBelowZero (.number n) = false ↔ n.AtLeastZero := by
  cases n with
  | int k => simp [isBelowZero, Json.Number.AtLeastZero]
  | double d =>
    rw [isBelowZero, ← Bool.not_eq_true, Double.isBelowZero_iff, Json.Number.AtLeastZero]
    exact Int.not_lt

theorem admits_integer {n : Json.Number} :
    Kind.integer.admits (.number n) = true ↔ ∃ k, n.Denotes k := by
  cases n with
  | int k => simp [Kind.admits, Json.Number.Denotes]
  | double d => exact Double.isWhole_iff

-- ---------------------------------------------------------------------------
-- The values of fields
-- ---------------------------------------------------------------------------

/-- The field is absent, or null, or has a value of this sort. -/
def Allows (fields : List (String × Json)) (name : String) (P : Json → Prop) : Prop :=
  ∀ v, Json.member? name fields = some v → v = .null ∨ P v

/-- A text. -/
def IsText (v : Json) : Prop := ∃ s, v = .string s

/-- A truth value. -/
def IsFlag (v : Json) : Prop := ∃ b, v = .bool b

/-- A number that stands for an integer of 32 bits without a sign. -/
def IsCount (v : Json) : Prop := ∃ n k, v = .number n ∧ n.Denotes k ∧ 0 ≤ k ∧ k ≤ 4294967295

/-- A number of zero or more. -/
def IsDuration (v : Json) : Prop := ∃ n, v = .number n ∧ n.AtLeastZero

/-- A list of texts. -/
def IsTexts (v : Json) : Prop := ∃ items, v = .array items ∧ ∀ item ∈ items, IsText item

/-- An object with any members. -/
def IsRecord (v : Json) : Prop := ∃ members, v = .object members

/--
A text, an integer that fits 64 bits with a sign, or a double that stands for an
integer below `10¹⁸` in magnitude.
-/
def IsPriority (v : Json) : Prop :=
  IsText v ∨ (∃ k, v = .number (.int k) ∧ -(2 ^ 63) ≤ k ∧ k < 2 ^ 63) ∨
    ∃ d k, v = .number (.double d) ∧ Json.Number.Denotes (.double d) k ∧ k.natAbs < 10 ^ 18

/-- The members of an issue that was found. -/
structure ConformsIssue (members : List (String × Json)) : Prop where
  texts : ∀ name ∈ ["title", "description", "type"], Allows members name IsText
  priority : Allows members "priority" IsPriority

/-- A list of issues. -/
def IsIssues (v : Json) : Prop :=
  ∃ items, v = .array items ∧ ∀ item ∈ items, ∃ members, item = .object members ∧
    ConformsIssue members

/-- The fields of an object that holds a result. Nothing is asked of a field that is not named. -/
structure Conforms (fields : List (String × Json)) : Prop where
  texts : ∀ name ∈ ["status", "summary", "error", "message"], Allows fields name IsText
  flags : ∀ name ∈ ["success", "converged"], Allows fields name IsFlag
  count : Allows fields "iterations" IsCount
  duration : Allows fields "duration_seconds" IsDuration
  lists : ∀ name ∈ ["files_modified", "punted_items"], Allows fields name IsTexts
  gates : Allows fields "quality_gates" IsRecord
  issues : Allows fields "discovered_issues" IsIssues

-- ---------------------------------------------------------------------------
-- The format
-- ---------------------------------------------------------------------------

namespace ResultFormat

/-- A field meets a format if its value, where there is one, has no fault. -/
def Meets (fields : List (String × Json)) (name : String) (format : FieldFormat) : Prop :=
  ∀ v, Json.member? name fields = some v → format.violations v = []

theorem violations_eq_nil_iff {v : Json} : violations v = [] ↔
    ∃ fields, v = .object fields ∧ ∀ entry ∈ resultFields, Meets fields entry.1 entry.2 := by
  cases v with
  | object fields =>
    simp only [violations, List.flatMap_eq_nil_iff, Json.object.injEq, exists_eq_left', Meets]
    refine forall₂_congr fun entry _ => ?_
    split <;> simp_all
  | _ => simp [violations]

theorem objectViolations_eq_nil_iff {known : List (String × Scalar)} {v : Json} :
    objectViolations known v = [] ↔ ∃ members, v = .object members ∧ ∀ entry ∈ known, ∀ u,
      Json.member? entry.1 members = some u → entry.2.violations u = [] := by
  cases v with
  | object members =>
    simp only [objectViolations, memberViolations, List.flatMap_eq_nil_iff, Json.object.injEq,
      exists_eq_left']
    refine forall₂_congr fun entry _ => ?_
    split <;> simp_all
  | _ => simp [objectViolations]

theorem Scalar.violations_eq_nil_iff {s : Scalar} {v : Json} : s.violations v = [] ↔
    ¬ (s.atLeastZero = true ∧ isBelowZero v = true) ∧ ∃ k ∈ s.kinds, k.admits v = true := by
  simp [Scalar.violations]

theorem optionalText_violations {v : Json} :
    optionalText.violations v = [] ↔ v = .null ∨ IsText v := by
  cases v <;> simp [Scalar.violations_eq_nil_iff, optionalText, Kind.admits, IsText]

theorem optionalFlag_violations {v : Json} :
    optionalFlag.violations v = [] ↔ v = .null ∨ IsFlag v := by
  cases v <;> simp [Scalar.violations_eq_nil_iff, optionalFlag, Kind.admits, IsFlag]

theorem duration_violations {v : Json} :
    Scalar.violations ⟨[.null, .number], true⟩ v = [] ↔ v = .null ∨ IsDuration v := by
  cases v with
  | number n =>
    simp [Scalar.violations_eq_nil_iff, Kind.admits, IsDuration, isBelowZero_number]
  | _ => simp [Scalar.violations_eq_nil_iff, Kind.admits, IsDuration, isBelowZero]

theorem record_violations {v : Json} :
    Scalar.violations ⟨[.null, .object], false⟩ v = [] ↔ v = .null ∨ IsRecord v := by
  cases v <;> simp [Scalar.violations_eq_nil_iff, Kind.admits, IsRecord]

theorem texts_violations {v : Json} :
    (FieldFormat.arrayOf ⟨[.string], false⟩).violations v = [] ↔ v = .null ∨ IsTexts v := by
  cases v with
  | array items =>
    have hItem : ∀ item, Scalar.violations ⟨[.string], false⟩ item = [] ↔ IsText item := by
      intro item
      cases item <;> simp [Scalar.violations_eq_nil_iff, Kind.admits, IsText]
    simp [FieldFormat.violations, hItem, IsTexts]
  | _ =>
    simp [FieldFormat.violations, Scalar.violations_eq_nil_iff, listKinds, Kind.admits, IsTexts]

end ResultFormat

-- ---------------------------------------------------------------------------
-- Whole numbers
-- ---------------------------------------------------------------------------

/-- The two gates of a number of iterations. -/
theorem count_iff {v : Json} : (Scalar.violations ⟨[.integer, .null], true⟩ v = [] ∧
    ∃ c, iterationsOf v = .ok c) ↔ v = .null ∨ IsCount v := by
  cases v with
  | number n =>
    have hFormat : Scalar.violations ⟨[.integer, .null], true⟩ (.number n) = [] ↔
        n.AtLeastZero ∧ ∃ k, n.Denotes k := by
      simp [Scalar.violations_eq_nil_iff, ← isBelowZero_number, ← admits_integer, Kind.admits]
    have hRead : (∃ c, iterationsOf (.number n) = .ok c) ↔ ∃ c, count? n = some c := by
      simp only [iterationsOf]
      split <;> simp_all
    rw [hFormat, hRead, exists_count?_iff]
    constructor
    · rintro ⟨-, k, hk, hRange⟩
      exact .inr ⟨n, k, rfl, hk, hRange⟩
    · rintro (h | ⟨_, k, ⟨⟩, hk, hRange⟩)
      · cases h
      · exact ⟨⟨hk.atLeastZero hRange.1, k, hk⟩, k, hk, hRange⟩
  | _ => simp [Scalar.violations_eq_nil_iff, Kind.admits, IsCount, isBelowZero, iterationsOf]

/-- The two gates of a priority. -/
theorem priority_iff {v : Json} : (Scalar.violations ⟨[.integer, .null, .string], false⟩ v = [] ∧
    ∃ p, Priority.ofJson v = .ok p) ↔ v = .null ∨ IsPriority v := by
  cases v with
  | number n =>
    have hFormat : Scalar.violations ⟨[.integer, .null, .string], false⟩ (.number n) = [] ↔
        ∃ k, n.Denotes k := by
      simp [Scalar.violations_eq_nil_iff, ← admits_integer, Kind.admits]
    rw [hFormat]
    cases n with
    | int k =>
      have hLevel : isLevel k = true ↔ -(2 ^ 63) ≤ k ∧ k < 2 ^ 63 := by
        simp [isLevel]
      have hRead : (∃ p, Priority.ofJson (.number (.int k)) = .ok p) ↔ isLevel k = true := by
        simp only [Priority.ofJson]
        split <;> simp_all
      rw [hRead, hLevel]
      constructor
      · rintro ⟨-, hRange⟩
        exact .inr (.inr (.inl ⟨k, rfl, hRange⟩))
      · rintro (h | ⟨_, h⟩ | ⟨_, ⟨⟩, hRange⟩ | ⟨_, _, h, -⟩)
        · cases h
        · cases h
        · exact ⟨⟨k, rfl⟩, hRange⟩
        · cases h
    | double d =>
      have hRead : (∃ p, Priority.ofJson (.number (.double d)) = .ok p) ↔
          ∃ k, Json.Number.Denotes (.double d) k ∧ k.natAbs < 10 ^ 18 := by
        simp only [Priority.ofJson, ← wholeNumber?_eq_some_iff]
        split <;> simp_all
      rw [hRead]
      constructor
      · rintro ⟨-, k, hk, hLt⟩
        exact .inr (.inr (.inr ⟨d, k, rfl, hk, hLt⟩))
      · rintro (h | ⟨_, h⟩ | ⟨_, h, -⟩ | ⟨_, k, ⟨⟩, hk, hLt⟩)
        · cases h
        · cases h
        · cases h
        · exact ⟨⟨k, hk⟩, k, hk, hLt⟩
  | _ => simp [Scalar.violations_eq_nil_iff, Kind.admits, IsPriority, IsText, Priority.ofJson]

-- ---------------------------------------------------------------------------
-- Issues and results
-- ---------------------------------------------------------------------------

theorem exists_mapM_iff {α β ε : Type} {f : α → Except ε β} {xs : List α} :
    (∃ ys, xs.mapM f = .ok ys) ↔ ∀ x ∈ xs, ∃ y, f x = .ok y := by
  induction xs with
  | nil => simp [pure, Except.pure]
  | cons x xs ih =>
    rw [List.forall_mem_cons, ← ih, List.mapM_cons]
    cases f x <;> cases xs.mapM f <;> simp [bind, Except.bind, pure, Except.pure]

/-- A field that passes two gates, the second of which reads an absent field as null. -/
theorem allows_iff (fields : List (String × Json)) (name : String) {P Q R : Json → Prop}
    (hNull : R .null) (h : ∀ v, (Q v ∧ R v) ↔ v = .null ∨ P v) :
    ((∀ v, Json.member? name fields = some v → Q v) ∧ R (field fields name)) ↔
      Allows fields name P := by
  unfold field Allows
  cases Json.member? name fields with
  | none => simpa using hNull
  | some v => simpa using h v

/-- The two gates of the members of an issue. -/
theorem issue_iff {members : List (String × Json)} :
    ((∀ entry ∈ issueMembers, ∀ v, Json.member? entry.1 members = some v →
        entry.2.violations v = []) ∧ ∃ i, DiscoveredIssue.ofFields members = .ok i) ↔
      ConformsIssue members := by
  have hRead : (∃ i, DiscoveredIssue.ofFields members = .ok i) ↔
      ∃ p, Priority.ofJson (field members "priority") = .ok p := by
    simp only [DiscoveredIssue.ofFields]
    cases Priority.ofJson (field members "priority") <;> simp [bind, Except.bind]
  have hPriority := allows_iff members "priority"
    (R := fun v => ∃ p, Priority.ofJson v = .ok p) ⟨none, rfl⟩ fun _ => priority_iff
  rw [hRead]
  constructor
  · rintro ⟨hFormat, hValue⟩
    have hKinds := hFormat ("priority", ⟨[.integer, .null, .string], false⟩)
      (by simp [issueMembers])
    refine ⟨fun name hName v hv => ?_, hPriority.mp ⟨hKinds, hValue⟩⟩
    refine optionalText_violations.mp (hFormat (name, optionalText) ?_ v hv)
    simp only [List.mem_cons, List.not_mem_nil, or_false] at hName
    rcases hName with rfl | rfl | rfl <;> simp [issueMembers]
  · rintro ⟨hTexts, hPrio⟩
    obtain ⟨hFormat, hValue⟩ := hPriority.mpr hPrio
    have hText : ∀ name ∈ ["title", "description", "type"], ∀ v,
        Json.member? name members = some v → optionalText.violations v = [] :=
      fun name hName v hv => optionalText_violations.mpr (hTexts name hName v hv)
    refine ⟨?_, hValue⟩
    simp only [issueMembers, List.forall_mem_cons]
    exact ⟨hText _ (by simp), hFormat, hText _ (by simp), hText _ (by simp), nofun⟩

/-- The two gates of a list of issues. -/
theorem issues_iff {v : Json} : ((FieldFormat.arrayOfObjects issueMembers).violations v = [] ∧
    ∀ item ∈ v.asArray?.getD [], ∃ i, DiscoveredIssue.ofFields (item.asObject?.getD []) = .ok i) ↔
      v = .null ∨ IsIssues v := by
  cases v with
  | array items =>
    simp only [FieldFormat.violations, List.flatMap_eq_nil_iff, objectViolations_eq_nil_iff,
      Json.asArray?, Option.getD_some, reduceCtorEq, false_or, IsIssues, Json.array.injEq,
      exists_eq_left']
    constructor
    · rintro ⟨hFormat, hRead⟩ item hItem
      obtain ⟨members, rfl, hMembers⟩ := hFormat item hItem
      exact ⟨members, rfl, issue_iff.mp ⟨hMembers, hRead _ hItem⟩⟩
    · intro h
      constructor
      · intro item hItem
        obtain ⟨members, rfl, hIssue⟩ := h item hItem
        exact ⟨members, rfl, (issue_iff.mpr hIssue).1⟩
      · intro item hItem
        obtain ⟨members, rfl, hIssue⟩ := h item hItem
        exact (issue_iff.mpr hIssue).2
  | _ =>
    simp [FieldFormat.violations, Scalar.violations_eq_nil_iff, listKinds, Kind.admits, IsIssues,
      Json.asArray?]

theorem exists_ofFields_iff {fields : List (String × Json)} :
    (∃ r, AgentResult.ofFields fields = .ok r) ↔
      (∀ item ∈ (field fields "discovered_issues").asArray?.getD [],
        ∃ i, DiscoveredIssue.ofFields (item.asObject?.getD []) = .ok i) ∧
      ∃ c, iterationsOf (field fields "iterations") = .ok c := by
  have hMap : ((∀ item ∈ (field fields "discovered_issues").asArray?.getD [],
      ∃ i, DiscoveredIssue.ofFields (item.asObject?.getD []) = .ok i)) ↔
      ∃ issues, (((field fields "discovered_issues").asArray?.getD []).map
        fun item => item.asObject?.getD []).mapM DiscoveredIssue.ofFields = .ok issues := by
    rw [exists_mapM_iff, List.forall_mem_map]
  rw [hMap]
  simp only [AgentResult.ofFields]
  cases (((field fields "discovered_issues").asArray?.getD []).map
    fun item => item.asObject?.getD []).mapM DiscoveredIssue.ofFields with
  | error e => simp [bind, Except.bind]
  | ok issues =>
    cases iterationsOf (field fields "iterations") <;> simp [bind, Except.bind]

/-- The two gates of an object come to the same as what is asked of its fields. -/
theorem conforms_iff {fields : List (String × Json)} :
    ((∀ entry ∈ resultFields, Meets fields entry.1 entry.2) ∧
      ∃ r, AgentResult.ofFields fields = .ok r) ↔ Conforms fields := by
  have hText : ∀ {name}, Meets fields name (.scalar optionalText) ↔ Allows fields name IsText :=
    forall₂_congr fun _ _ => optionalText_violations
  have hFlag : ∀ {name}, Meets fields name (.scalar optionalFlag) ↔ Allows fields name IsFlag :=
    forall₂_congr fun _ _ => optionalFlag_violations
  have hTexts : ∀ {name}, Meets fields name (.arrayOf ⟨[.string], false⟩) ↔
      Allows fields name IsTexts :=
    forall₂_congr fun _ _ => texts_violations
  have hDuration : Meets fields "duration_seconds" (.scalar ⟨[.null, .number], true⟩) ↔
      Allows fields "duration_seconds" IsDuration :=
    forall₂_congr fun _ _ => duration_violations
  have hGates : Meets fields "quality_gates" (.scalar ⟨[.null, .object], false⟩) ↔
      Allows fields "quality_gates" IsRecord :=
    forall₂_congr fun _ _ => record_violations
  have hCount := allows_iff fields "iterations"
    (R := fun v => ∃ c, iterationsOf v = .ok c) ⟨0, rfl⟩ fun _ => count_iff
  have hIssues := allows_iff fields "discovered_issues"
    (R := fun v => ∀ item ∈ v.asArray?.getD [],
      ∃ i, DiscoveredIssue.ofFields (item.asObject?.getD []) = .ok i)
    (by simp [Json.asArray?]) fun _ => issues_iff
  rw [exists_ofFields_iff]
  simp only [resultFields, List.forall_mem_cons, hText, hFlag, hTexts, hDuration, hGates]
  constructor
  · rintro ⟨⟨hConverged, -, hFound, hDur, hError, hFiles, hIterations, hMessage, hPunted, hGate,
      hStatus, hSuccess, hSummary, -⟩, hIssue, hValue⟩
    exact ⟨by simp [hStatus, hSummary, hError, hMessage], by simp [hSuccess, hConverged],
      hCount.mp ⟨hIterations, hValue⟩, hDur, by simp [hFiles, hPunted], hGate,
      hIssues.mp ⟨hFound, hIssue⟩⟩
  · intro h
    obtain ⟨hIterations, hValue⟩ := hCount.mpr h.count
    obtain ⟨hFound, hIssue⟩ := hIssues.mpr h.issues
    refine ⟨⟨h.flags _ (by simp), fun _ _ => rfl, hFound, h.duration, h.texts _ (by simp),
      h.lists _ (by simp), hIterations, h.texts _ (by simp), h.lists _ (by simp), h.gates,
      h.texts _ (by simp), h.flags _ (by simp), h.texts _ (by simp), ?_⟩, hIssue, hValue⟩
    simp

theorem exists_ofJson_iff {v : Json} :
    (∃ r, AgentResult.ofJson v = .ok r) ↔ ∃ fields, v = .object fields ∧ Conforms fields := by
  simp only [← conforms_iff, AgentResult.ofJson]
  split
  · rename_i hNone
    obtain ⟨fields, rfl, hMeets⟩ := violations_eq_nil_iff.mp hNone
    constructor
    · rintro ⟨r, h⟩
      exact ⟨fields, rfl, hMeets, r, h⟩
    · rintro ⟨_, ⟨⟩, -, h⟩
      exact h
  · rename_i hSome
    constructor
    · rintro ⟨r, h⟩
      cases h
    · rintro ⟨fields, rfl, hMeets, -⟩
      exact absurd (violations_eq_nil_iff.mpr ⟨fields, rfl, hMeets⟩) hSome

end Errand
