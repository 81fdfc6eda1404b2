import Errand.Proofs.Result.Interchange

/-!
# Errand — how a whole number is spelled

A count of iterations and the priority of an issue may be written as an integer or, with a
point or an exponent, as a double. `Json.Number.Denotes` says which integer a number stands
for, so that `2` and `2.0` stand for the same, and `-0.0` for zero. Where both spellings are
accepted they are read alike, and nothing else of the result depends on the spelling.

Of counts both spellings are accepted or neither. Of priorities they are not: every integer of
64 bits with a sign is a level, but a double is one only below `10¹⁸` in magnitude, although
doubles stand for integers far beyond.

* `Json.Number.Denotes.count?_eq`    — the count that a number stands for.
* `ofJson_withIterations`, `ofJson_withPriority` — what a count, or a priority, adds to a result.
* `AgentResult.ofJson_spelling`      — how far the two spellings are alike.
* `AgentResult.parse_unlevelled`     — a priority whose spellings are not.
-/

namespace Errand

open Number (Double)
open ResultFormat

-- ---------------------------------------------------------------------------
-- Numbers
-- ---------------------------------------------------------------------------

/-- A number stands for one integer at most. -/
theorem Json.Number.Denotes.unique {n : Json.Number} {k k' : Int} (h : n.Denotes k)
    (h' : n.Denotes k') : k = k' := by
  cases n with
  | int m => exact Eq.trans (Eq.symm h) h'
  | double d =>
    have hk : d.toInt? = some k := Double.toInt?_eq_some_iff.mpr h
    have hk' : d.toInt? = some k' := Double.toInt?_eq_some_iff.mpr h'
    rw [hk] at hk'
    exact Option.some.inj hk'

/-- A number that stands for an integer of 32 bits without a sign is a count. -/
theorem Json.Number.Denotes.count?_eq {n : Json.Number} {k : Int} (h : n.Denotes k)
    (hLow : 0 ≤ k) (hHigh : k ≤ 4294967295) : count? n = some k.toNat := by
  have hRange : 0 ≤ k ∧ k ≤ (maxCount : Int) := ⟨hLow, hHigh⟩
  cases n with
  | int m =>
    have hm : m = k := h
    subst hm
    exact if_pos hRange
  | double d =>
    have hWhole : wholeNumber? d = some k := wholeNumber?_eq_some_iff.mpr ⟨h, by omega⟩
    simp only [count?, hWhole]
    exact if_pos hRange

/-- Both spellings of a count pass the format. -/
theorem Json.Number.Denotes.count_violations {n : Json.Number} {k : Int} (h : n.Denotes k)
    (hLow : 0 ≤ k) : Scalar.violations ⟨[.integer, .null], true⟩ (.number n) = [] := by
  rw [Scalar.violations_eq_nil_iff]
  refine ⟨fun hBelow => ?_, .integer, by simp, admits_integer.mpr ⟨k, h⟩⟩
  have hNot := isBelowZero_number.mpr (h.atLeastZero hLow)
  rw [hNot] at hBelow
  exact absurd hBelow.2 (by decide)

/-- Both spellings of a level pass the format. -/
theorem Json.Number.Denotes.priority_violations {n : Json.Number} {k : Int} (h : n.Denotes k) :
    Scalar.violations ⟨[.integer, .null, .string], false⟩ (.number n) = [] := by
  rw [Scalar.violations_eq_nil_iff]
  exact ⟨fun hBelow => absurd hBelow.1 (by decide), .integer, by simp, admits_integer.mpr ⟨k, h⟩⟩

/-- An integer of 64 bits is a level. -/
theorem Priority.ofJson_int {k : Int} (hLow : -(2 ^ 63) ≤ k) (hHigh : k < 2 ^ 63) :
    Priority.ofJson (.number (.int k)) = .ok (some (.level k)) := by
  have hLevel : isLevel k = true := by
    simp only [isLevel, Bool.and_eq_true, decide_eq_true_eq]
    exact ⟨hLow, hHigh⟩
  rw [Priority.ofJson, if_pos hLevel]

/-- A double is a level if it stands for an integer below the limit. -/
theorem Priority.ofJson_double {d : Double} {k : Int} (h : (Json.Number.double d).Denotes k)
    (hLimit : k.natAbs < 10 ^ 18) :
    Priority.ofJson (.number (.double d)) = .ok (some (.level k)) := by
  have hWhole : wholeNumber? d = some k := wholeNumber?_eq_some_iff.mpr ⟨h, hLimit⟩
  simp only [Priority.ofJson, hWhole]

-- ---------------------------------------------------------------------------
-- Counts
-- ---------------------------------------------------------------------------

/-- Fields with this number of iterations. -/
def withIterations (v : Json) (fields : List (String × Json)) : List (String × Json) :=
  Json.insertMember "iterations" v fields

/-- Only the format of the field that is set can tell two values apart. -/
theorem violations_insertMember {name : String} {v w : Json}
    (h : ∀ entry ∈ resultFields, entry.1 = name →
      entry.2.violations v = entry.2.violations w) (fields : List (String × Json)) :
    ResultFormat.violations (.object (Json.insertMember name v fields)) =
      ResultFormat.violations (.object (Json.insertMember name w fields)) := by
  rw [violations_object, violations_object]
  refine List.flatMap_congr fun entry hEntry => ?_
  rw [field_insertMember, field_insertMember]
  by_cases hName : name = entry.1
  · rw [if_pos hName, if_pos hName, h entry hEntry hName.symm]
  · rw [if_neg hName, if_neg hName]

theorem ofFields_withIterations {v : Json} {c : Nat} (hv : iterationsOf v = .ok c)
    (fields : List (String × Json)) : AgentResult.ofFields (withIterations v fields) =
      (AgentResult.ofFields (withIterations .null fields)).map
        fun r => { r with iterations := c } := by
  unfold AgentResult.ofFields withIterations
  simp (disch := decide) only [field_insertMember_ne, field_insertMember_self, hv]
  cases List.mapM DiscoveredIssue.ofFields _ <;> rfl

/-- What a change of the fields does to what is read, it does to the result, if it makes no
difference to the format. -/
theorem ofJson_eq_map {fields fields' : List (String × Json)} {g : AgentResult → AgentResult}
    (hViolations : ResultFormat.violations (.object fields') =
      ResultFormat.violations (.object fields))
    (hRead : AgentResult.ofFields fields' = (AgentResult.ofFields fields).map g) :
    AgentResult.ofJson (.object fields') = (AgentResult.ofJson (.object fields)).map g := by
  simp only [AgentResult.ofJson, hViolations, Json.asObject?, Option.getD_some]
  split
  · exact hRead
  · rfl

/-- What a number of iterations adds to a result. -/
theorem ofJson_withIterations {n : Json.Number} {k : Int} (h : n.Denotes k) (hLow : 0 ≤ k)
    (hHigh : k ≤ 4294967295) (fields : List (String × Json)) :
    AgentResult.ofJson (.object (withIterations (.number n) fields)) =
      (AgentResult.ofJson (.object (withIterations .null fields))).map
        fun r => { r with iterations := k.toNat } := by
  have hViolations : ResultFormat.violations (.object (withIterations (.number n) fields)) =
      ResultFormat.violations (.object (withIterations .null fields)) := by
    refine violations_insertMember (fun entry hEntry hName => ?_) fields
    obtain rfl : entry = ("iterations", .scalar ⟨[.integer, .null], true⟩) :=
      eq_of_name_eq hEntry (by simp [resultFields]) hName
    exact (h.count_violations hLow).trans (violations_null hEntry).symm
  have hRead : iterationsOf (.number n) = .ok k.toNat := by
    simp only [iterationsOf, h.count?_eq hLow hHigh]
  exact ofJson_eq_map hViolations (ofFields_withIterations hRead fields)

/-- No other integer is a count, in either spelling. -/
theorem not_ok_withIterations {n : Json.Number} {k : Int} (h : n.Denotes k)
    (hOut : ¬ (0 ≤ k ∧ k ≤ 4294967295)) (fields : List (String × Json)) :
    ¬ ∃ r, AgentResult.ofJson (.object (withIterations (.number n) fields)) = .ok r := by
  rw [exists_ofJson_iff]
  rintro ⟨_, ⟨⟩, hConforms⟩
  rcases hConforms.count _ (Json.member?_insertMember_self _ _ _) with hNull | ⟨m, k', hm, hk', hIn⟩
  · cases hNull
  · cases hm
    obtain rfl := h.unique hk'
    exact hOut hIn

-- ---------------------------------------------------------------------------
-- Priorities
-- ---------------------------------------------------------------------------

/-- A place in a list of issues, with the other members of the issue that stands there. -/
structure IssuePlace where
  before : List Json
  members : List (String × Json)
  after : List Json

/-- The list with this priority of the issue at the place. -/
def IssuePlace.items (p : IssuePlace) (v : Json) : List Json :=
  p.before ++ .object (Json.insertMember "priority" v p.members) :: p.after

/-- Fields with this priority of the issue at the place. -/
def withPriority (p : IssuePlace) (v : Json) (fields : List (String × Json)) :
    List (String × Json) :=
  Json.insertMember "discovered_issues" (.array (p.items v)) fields

/-- The issue with this level. -/
def DiscoveredIssue.atLevel (k : Int) (issue : DiscoveredIssue) : DiscoveredIssue :=
  { issue with priority := some (.level k) }

/-- The result with this level of the issue at an index. -/
def AgentResult.atLevel (i : Nat) (k : Int) (r : AgentResult) : AgentResult :=
  { r with discoveredIssues := r.discoveredIssues.modify i (DiscoveredIssue.atLevel k) }

theorem ofFields_insertPriority {v : Json} {k : Int}
    (hv : Priority.ofJson v = .ok (some (.level k))) (members : List (String × Json)) :
    DiscoveredIssue.ofFields (Json.insertMember "priority" v members) =
      (DiscoveredIssue.ofFields (Json.insertMember "priority" .null members)).map
        (DiscoveredIssue.atLevel k) := by
  have hNull : Priority.ofJson .null = .ok none := rfl
  unfold DiscoveredIssue.ofFields
  simp (disch := decide) only [field_insertMember_ne, field_insertMember_self, hv, hNull]
  rfl

/-- A change of one item changes what is read at its index. -/
theorem mapM_append_cons {α β ε : Type} {f : α → Except ε β} {g : β → β} {x x' : α}
    (h : f x' = (f x).map g) (before after : List α) :
    (before ++ x' :: after).mapM f =
      ((before ++ x :: after).mapM f).map fun ys => ys.modify before.length g := by
  induction before with
  | nil =>
    rw [List.nil_append, List.nil_append, List.mapM_cons, List.mapM_cons, h]
    cases f x with
    | error e => rfl
    | ok y => cases after.mapM f <;> rfl
  | cons b before ih =>
    rw [List.cons_append, List.cons_append, List.mapM_cons, List.mapM_cons, ih]
    cases f b with
    | error e => rfl
    | ok y => cases (before ++ x :: after).mapM f <;> rfl

theorem ofFields_withPriority {v : Json} {k : Int}
    (hv : Priority.ofJson v = .ok (some (.level k))) (p : IssuePlace)
    (fields : List (String × Json)) : AgentResult.ofFields (withPriority p v fields) =
      (AgentResult.ofFields (withPriority p .null fields)).map
        (AgentResult.atLevel p.before.length k) := by
  have hFound : ∀ w, (((Json.array (p.items w)).asArray?.getD []).map
      fun item => item.asObject?.getD []) = (p.before.map fun item => item.asObject?.getD []) ++
        Json.insertMember "priority" w p.members ::
          (p.after.map fun item => item.asObject?.getD []) := by
    intro w
    exact List.map_append
  have hIssues := mapM_append_cons (ofFields_insertPriority hv p.members)
    (p.before.map fun item => item.asObject?.getD [])
    (p.after.map fun item => item.asObject?.getD [])
  rw [List.length_map] at hIssues
  unfold AgentResult.ofFields withPriority
  simp (disch := decide) only [field_insertMember_ne, field_insertMember_self, hFound, hIssues]
  generalize List.mapM DiscoveredIssue.ofFields _ = issues
  cases issues with
  | error e => rfl
  | ok issues => cases iterationsOf (field fields "iterations") <;> rfl

/-- A number that stands for an integer makes no difference to the faults of an issue. -/
theorem objectViolations_insertPriority {n : Json.Number} {k : Int} (h : n.Denotes k)
    (members : List (String × Json)) :
    objectViolations issueMembers (.object (Json.insertMember "priority" (.number n) members)) =
      objectViolations issueMembers (.object (Json.insertMember "priority" .null members)) := by
  rw [objectViolations_object, objectViolations_object]
  refine List.flatMap_congr fun entry hEntry => ?_
  rw [field_insertMember, field_insertMember]
  by_cases hName : "priority" = entry.1
  · obtain rfl : entry = ("priority", ⟨[.integer, .null, .string], false⟩) :=
      List.inj_on_of_nodup_map (show (issueMembers.map Prod.fst).Nodup by decide) hEntry
        (by simp [issueMembers]) hName.symm
    rw [if_pos hName, if_pos hName, memberViolations_null hEntry]
    exact h.priority_violations
  · rw [if_neg hName, if_neg hName]

/-- What a priority adds to a result, if it is a level. -/
theorem ofJson_withPriority {n : Json.Number} {k : Int} (h : n.Denotes k)
    (hRead : Priority.ofJson (.number n) = .ok (some (.level k))) (p : IssuePlace)
    (fields : List (String × Json)) :
    AgentResult.ofJson (.object (withPriority p (.number n) fields)) =
      (AgentResult.ofJson (.object (withPriority p .null fields))).map
        (AgentResult.atLevel p.before.length k) := by
  have hViolations : ResultFormat.violations (.object (withPriority p (.number n) fields)) =
      ResultFormat.violations (.object (withPriority p .null fields)) := by
    refine violations_insertMember (fun entry hEntry hName => ?_) fields
    obtain rfl : entry = ("discovered_issues", .arrayOfObjects issueMembers) :=
      eq_of_name_eq hEntry (by simp [resultFields]) hName
    simp only [FieldFormat.violations, IssuePlace.items, List.flatMap_append, List.flatMap_cons,
      objectViolations_insertPriority h]
  exact ofJson_eq_map hViolations (ofFields_withPriority hRead p fields)

/-- A double from the limit on is no priority. -/
theorem not_ok_withPriority {d : Double} {k : Int} (h : (Json.Number.double d).Denotes k)
    (hLimit : ¬ k.natAbs < 10 ^ 18) (p : IssuePlace) (fields : List (String × Json)) :
    ¬ ∃ r, AgentResult.ofJson (.object (withPriority p (.number (.double d)) fields)) = .ok r := by
  rw [exists_ofJson_iff]
  rintro ⟨_, ⟨⟩, hConforms⟩
  rcases hConforms.issues _ (Json.member?_insertMember_self _ _ _) with
    hNull | ⟨items, hItems, hAll⟩
  · cases hNull
  cases hItems
  obtain ⟨members, hMembers, hIssue⟩ := hAll
    (.object (Json.insertMember "priority" (.number (.double d)) p.members))
    (List.mem_append_right _ List.mem_cons_self)
  cases hMembers
  rcases hIssue.priority _ (Json.member?_insertMember_self _ _ _) with
    hNull | ⟨_, hText⟩ | ⟨_, hInt, -⟩ | ⟨_, k', hDouble, hk', hBelow⟩
  · cases hNull
  · cases hText
  · cases hInt
  · cases hDouble
    obtain rfl := h.unique hk'
    exact hLimit hBelow

-- ---------------------------------------------------------------------------
-- The two spellings
-- ---------------------------------------------------------------------------

/-- How far an integer and the double that equals it are read alike. -/
structure SpelledAlike (k : Int) (d : Double) : Prop where
  /-- A text is read as the object that it spells, in which either spelling may stand. -/
  parsed : ∀ raw fields, Json.Acceptable raw (.object fields) →
    AgentResult.parse raw = AgentResult.ofJson (.object fields)
  /-- A count of 32 bits without a sign is read from both, and adds nothing else. -/
  count : 0 ≤ k → k ≤ 4294967295 → ∀ n : Json.Number, n = .int k ∨ n = .double d →
    ∀ fields, AgentResult.ofJson (.object (withIterations (.number n) fields)) =
      (AgentResult.ofJson (.object (withIterations .null fields))).map
        fun r => { r with iterations := k.toNat }
  /-- No other count is read, so one spelling is accepted wherever the other is. -/
  count_iff : ∀ fields,
    (∃ r, AgentResult.ofJson (.object (withIterations (.number (.double d)) fields)) = .ok r) ↔
      ∃ r, AgentResult.ofJson (.object (withIterations (.number (.int k)) fields)) = .ok r
  /-- A level below the limit is read from both, and adds nothing else. -/
  level : k.natAbs < 10 ^ 18 → ∀ n : Json.Number, n = .int k ∨ n = .double d →
    ∀ p fields, AgentResult.ofJson (.object (withPriority p (.number n) fields)) =
      (AgentResult.ofJson (.object (withPriority p .null fields))).map
        (AgentResult.atLevel p.before.length k)
  /-- A level of 64 bits with a sign is read from the integer. -/
  literal : -(2 ^ 63) ≤ k → k < 2 ^ 63 → ∀ p fields,
    AgentResult.ofJson (.object (withPriority p (.number (.int k)) fields)) =
      (AgentResult.ofJson (.object (withPriority p .null fields))).map
        (AgentResult.atLevel p.before.length k)
  /-- A double is accepted wherever the integer is, if the level is below the limit. -/
  level_iff : ∀ p fields,
    (∃ r, AgentResult.ofJson (.object (withPriority p (.number (.double d)) fields)) = .ok r) ↔
      k.natAbs < 10 ^ 18 ∧
        ∃ r, AgentResult.ofJson (.object (withPriority p (.number (.int k)) fields)) = .ok r

/--
**A whole number means the same however it is spelled**, for every count and for every
priority below `10¹⁸` in magnitude. From there on a priority is read only from an integer.
-/
theorem AgentResult.ofJson_spelling {k : Int} {d : Double}
    (h : (Json.Number.double d).Denotes k) : SpelledAlike k d := by
  have hDenotes : ∀ n : Json.Number, n = .int k ∨ n = .double d → n.Denotes k := by
    rintro n (rfl | rfl)
    · exact rfl
    · exact h
  have hLevel : k.natAbs < 10 ^ 18 → ∀ n : Json.Number, n = .int k ∨ n = .double d →
      Priority.ofJson (.number n) = .ok (some (.level k)) := by
    rintro hLimit n (rfl | rfl)
    · exact Priority.ofJson_int (by omega) (by omega)
    · exact Priority.ofJson_double h hLimit
  refine ⟨fun _ _ hRaw => AgentResult.parse_of_acceptable hRaw,
    ?_, fun fields => ?_, ?_, ?_, fun p fields => ?_⟩
  · intro hLow hHigh n hn fields
    exact ofJson_withIterations (hDenotes n hn) hLow hHigh fields
  · by_cases hRange : 0 ≤ k ∧ k ≤ 4294967295
    · rw [ofJson_withIterations h hRange.1 hRange.2,
        ofJson_withIterations (n := .int k) rfl hRange.1 hRange.2]
    · exact iff_of_false (not_ok_withIterations h hRange fields)
        (not_ok_withIterations (n := .int k) rfl hRange fields)
  · intro hLimit n hn p fields
    exact ofJson_withPriority (hDenotes n hn) (hLevel hLimit n hn) p fields
  · intro hLow hHigh p fields
    exact ofJson_withPriority (n := .int k) rfl (Priority.ofJson_int hLow hHigh) p fields
  · by_cases hLimit : k.natAbs < 10 ^ 18
    · rw [ofJson_withPriority h (hLevel hLimit _ (.inr rfl)),
        ofJson_withPriority (n := .int k) rfl (hLevel hLimit _ (.inl rfl))]
      exact (and_iff_right hLimit).symm
    · exact iff_of_false (not_ok_withPriority h hLimit p fields) fun hFits => hLimit hFits.1

/-- A priority of minus zero, which is a double in every spelling, stands for level zero. -/
theorem AgentResult.ofJson_spelling_minusZero :
    let d : Double := ⟨0x8000000000000000⟩
    let p : IssuePlace := ⟨[.object []], [("title", .string "t")], []⟩
    (Json.Number.double d).Denotes 0 ∧ Json.Reader.number "-0".toList = some (.double d, []) ∧
      SpelledAlike 0 d ∧ AgentResult.ofJson (.object (withPriority p (.number (.double d)) [])) =
        .ok { discoveredIssues := [{}, { title := some "t", priority := some (.level 0) }] } := by
  intro d p
  have hDenotes : (Json.Number.double d).Denotes 0 := by
    show d.units? = some (0 * (Double.unitsPerOne : Int))
    decide +kernel
  have hAlike : SpelledAlike 0 d := AgentResult.ofJson_spelling hDenotes
  refine ⟨hDenotes, by decide +kernel, hAlike, ?_⟩
  rw [hAlike.level (by decide) _ (.inr rfl)]
  rfl

/-- The level `10¹⁸` is read from the integer and refused from the double that equals it. -/
theorem AgentResult.parse_unlevelled :
    let k : Int := 1000000000000000000
    let d : Double := ⟨0x43ABC16D674EC800⟩
    let text (priority : String) : String :=
      "\x7b\"discovered_issues\":[\x7b\"priority\":" ++ priority ++ "\x7d]\x7d"
    ((Json.Number.double d).Denotes k ∧ -(2 ^ 63) ≤ k ∧ k < 2 ^ 63) ∧
      Json.Reader.number "1000000000000000000".toList = some (.int k, []) ∧
      Json.Reader.number "1e18".toList = some (.double d, []) ∧
      (AgentResult.parse (text "1000000000000000000")).toOption.map AgentResult.discoveredIssues =
        some [{ priority := some (.level k) }] ∧
      ¬ ∃ r, AgentResult.parse (text "1e18") = .ok r := by
  intro k d text
  have hDenotes : (Json.Number.double d).Denotes k := by
    show d.units? = some (k * (Double.unitsPerOne : Int))
    decide +kernel
  have hRefused : (AgentResult.parse (text "1e18")).toOption.isNone = true := by decide +kernel
  refine ⟨⟨hDenotes, by decide, by decide⟩, by decide +kernel, by decide +kernel,
    by decide +kernel, ?_⟩
  rintro ⟨r, hr⟩
  rw [hr] at hRefused
  cases hRefused

end Errand
