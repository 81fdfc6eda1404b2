import Errand.Proofs.Result.Conforms

/-!
# Errand — objects that say the same

A result is read from the values under its known names, and nothing else of an object counts.
Null is as good as no value there: every format admits null, and every default is what null
stands for. So objects that have the same values under those names hold the same result, or
are refused for the same reason. In a list of issues the issues need only say the same
themselves.

* `SameIssue`, `SameFields`  — issues, and objects, that say the same.
* `violations_object`        — the format reads an absent field as null.
* `SameFields.ofJson_eq`     — objects that say the same are read alike.
-/

namespace Errand

open ResultFormat

-- ---------------------------------------------------------------------------
-- Objects that say the same
-- ---------------------------------------------------------------------------

/-- The names of the fields that a result may have. -/
def resultNames : List String := resultFields.map Prod.fst

/-- The names of the members that an issue may have. -/
def issueNames : List String := issueMembers.map Prod.fst

/-- Issues that say the same: under each name the same value, where an absent one counts as
null. What is no object says only what it is. -/
inductive SameIssue : Json → Json → Prop
  | refl (v : Json) : SameIssue v v
  | object {a b : List (String × Json)} (h : ∀ name ∈ issueNames, field a name = field b name) :
      SameIssue (.object a) (.object b)

/-- Values that say the same in the field of this name. -/
inductive SameValue (name : String) : Json → Json → Prop
  | refl (v : Json) : SameValue name v v
  | issues {a b : List Json} (hName : name = "discovered_issues")
      (h : List.Forall₂ SameIssue a b) : SameValue name (.array a) (.array b)

/-- Objects that say the same: under each name values that do. -/
def SameFields (a b : List (String × Json)) : Prop :=
  ∀ name ∈ resultNames, SameValue name (field a name) (field b name)

theorem SameFields.of_eq {a b : List (String × Json)}
    (h : ∀ name ∈ resultNames, field a name = field b name) : SameFields a b :=
  fun name hName => h name hName ▸ .refl _

-- ---------------------------------------------------------------------------
-- The format
-- ---------------------------------------------------------------------------

/-- A field has one format. -/
theorem eq_of_name_eq {entry other : String × FieldFormat} (h : entry ∈ resultFields)
    (hOther : other ∈ resultFields) (hName : entry.1 = other.1) : entry = other :=
  List.inj_on_of_nodup_map (show (resultFields.map Prod.fst).Nodup by decide) h hOther hName

/-- Null has no fault in any field of a result. -/
theorem violations_null {entry : String × FieldFormat} (h : entry ∈ resultFields) :
    entry.2.violations .null = [] := by
  simp only [resultFields, List.mem_cons, List.not_mem_nil, or_false] at h
  rcases h with rfl | rfl | rfl | rfl | rfl | rfl | rfl | rfl | rfl | rfl | rfl | rfl | rfl <;> rfl

/-- Null has no fault in any member of an issue. -/
theorem memberViolations_null {entry : String × Scalar} (h : entry ∈ issueMembers) :
    entry.2.violations .null = [] := by
  simp only [issueMembers, List.mem_cons, List.not_mem_nil, or_false] at h
  rcases h with rfl | rfl | rfl | rfl <;> rfl

/-- So the format may read an absent field as null. -/
theorem violations_object (fields : List (String × Json)) :
    ResultFormat.violations (.object fields) =
      resultFields.flatMap fun entry => entry.2.violations (field fields entry.1) := by
  refine List.flatMap_congr ?_
  rintro ⟨name, format⟩ hEntry
  have hNull := violations_null hEntry
  simp only [field]
  cases Json.member? name fields with
  | none => exact hNull.symm
  | some v => rfl

/-- And an absent member of an issue. -/
theorem objectViolations_object (members : List (String × Json)) :
    objectViolations issueMembers (.object members) =
      issueMembers.flatMap fun entry => entry.2.violations (field members entry.1) := by
  refine List.flatMap_congr ?_
  rintro ⟨name, format⟩ hEntry
  have hNull := memberViolations_null hEntry
  simp only [field]
  cases Json.member? name members with
  | none => exact hNull.symm
  | some v => rfl

-- ---------------------------------------------------------------------------
-- Issues
-- ---------------------------------------------------------------------------

theorem SameIssue.violations_eq {v w : Json} (h : SameIssue v w) :
    objectViolations issueMembers v = objectViolations issueMembers w := by
  cases h with
  | refl => rfl
  | object h =>
    rw [objectViolations_object, objectViolations_object]
    refine List.flatMap_congr fun entry hEntry => ?_
    rw [h entry.1 (List.mem_map_of_mem hEntry)]

theorem SameIssue.ofFields_eq {v w : Json} (h : SameIssue v w) :
    DiscoveredIssue.ofFields (v.asObject?.getD []) =
      DiscoveredIssue.ofFields (w.asObject?.getD []) := by
  cases h with
  | refl => rfl
  | object h =>
    simp only [Json.asObject?, Option.getD_some, DiscoveredIssue.ofFields]
    rw [h "priority" (by decide), h "title" (by decide), h "description" (by decide),
      h "type" (by decide)]

theorem forall₂_map_eq {α β : Type} {R : α → α → Prop} {f : α → β}
    (hf : ∀ a b, R a b → f a = f b) {as bs : List α} (h : List.Forall₂ R as bs) :
    as.map f = bs.map f := by
  induction h with
  | nil => rfl
  | cons hab _ ih => rw [List.map_cons, List.map_cons, hf _ _ hab, ih]

-- ---------------------------------------------------------------------------
-- Results
-- ---------------------------------------------------------------------------

theorem SameValue.eq_of_ne {name : String} {v w : Json} (h : SameValue name v w)
    (hName : name ≠ "discovered_issues") : v = w := by
  cases h with
  | refl => rfl
  | issues hEq => exact absurd hEq hName

/-- A format finds the same faults in values that say the same. -/
theorem SameValue.violations_eq {entry : String × FieldFormat} (hEntry : entry ∈ resultFields)
    {v w : Json} (h : SameValue entry.1 v w) : entry.2.violations v = entry.2.violations w := by
  cases h with
  | refl => rfl
  | issues hName h =>
    obtain rfl : entry = ("discovered_issues", .arrayOfObjects issueMembers) :=
      eq_of_name_eq hEntry (by simp [resultFields]) hName
    simp only [FieldFormat.violations, List.flatMap_def]
    rw [forall₂_map_eq (f := objectViolations issueMembers) (fun _ _ hv => hv.violations_eq) h]

/-- The same issues are read from values that say the same. -/
theorem SameValue.mapM_eq {name : String} {v w : Json} (h : SameValue name v w) :
    (((v.asArray?.getD []).map fun item => item.asObject?.getD []).mapM
        DiscoveredIssue.ofFields) =
      ((w.asArray?.getD []).map fun item => item.asObject?.getD []).mapM
        DiscoveredIssue.ofFields := by
  cases h with
  | refl => rfl
  | @issues a b _ h =>
    have hRead := forall₂_map_eq
      (f := fun item => DiscoveredIssue.ofFields (item.asObject?.getD []))
      (fun _ _ hv => hv.ofFields_eq) h
    -- reading is the same as running what is to be read, item by item
    have hRun : ∀ items : List Json,
        (items.map fun item => item.asObject?.getD []).mapM DiscoveredIssue.ofFields =
          (items.map fun item => DiscoveredIssue.ofFields (item.asObject?.getD [])).mapM id := by
      intro items
      rw [List.mapM_map, List.mapM_map]
      rfl
    simp only [Json.asArray?, Option.getD_some]
    rw [hRun, hRun, hRead]

theorem SameFields.violations_eq {a b : List (String × Json)} (h : SameFields a b) :
    ResultFormat.violations (.object a) = ResultFormat.violations (.object b) := by
  rw [violations_object, violations_object]
  exact List.flatMap_congr fun entry hEntry =>
    (h entry.1 (List.mem_map_of_mem hEntry)).violations_eq hEntry

theorem SameFields.ofFields_eq {a b : List (String × Json)} (h : SameFields a b) :
    AgentResult.ofFields a = AgentResult.ofFields b := by
  have hSame : ∀ name, name ∈ resultNames → name ≠ "discovered_issues" →
      field a name = field b name :=
    fun name hMem hName => (h name hMem).eq_of_ne hName
  have hIssues := (h "discovered_issues" (by decide)).mapM_eq
  unfold AgentResult.ofFields
  simp (disch := decide) only [hIssues, hSame]

/-- **Objects that say the same** hold the same result, or are refused for the same reason. -/
theorem SameFields.ofJson_eq {a b : List (String × Json)} (h : SameFields a b) :
    AgentResult.ofJson (.object a) = AgentResult.ofJson (.object b) := by
  rw [AgentResult.ofJson, AgentResult.ofJson, h.violations_eq]
  simp only [Json.asObject?, Option.getD_some, h.ofFields_eq]

end Errand
