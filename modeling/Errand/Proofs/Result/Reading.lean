import Errand.Proofs.Json.Exact
import Errand.Proofs.Result.SameFields

/-!
# Errand — reading a result is exact

A text holds a result exactly if it spells an object whose fields conform, and
every other text is refused with one kind of error, which quotes its start. What
is read comes from the known part of the value alone: fields that the format
does not name, in the result or in an issue, change neither the result nor the
reason of a refusal.

* `knownPart`              — a value without the fields that nothing reads.
* `ofJson_knownPart`       — a value is read as its known part is.
* `AgentResult.read_exact` — which texts hold a result.
-/

namespace Errand

open ResultFormat

-- ---------------------------------------------------------------------------
-- The known part
-- ---------------------------------------------------------------------------

/-- An issue without the members that the format does not name. -/
def knownIssue : Json → Json
  | .object members => .object (members.filter fun m => (issueMembers.map Prod.fst).contains m.1)
  | v => v

/-- A field's value without unknown parts, which only a list of issues has. -/
def knownValue (name : String) (v : Json) : Json :=
  match v with
  | .array items => if name = "discovered_issues" then .array (items.map knownIssue) else v
  | v => v

/-- The fields that the format names, each without unknown parts. -/
def knownFields (fields : List (String × Json)) : List (String × Json) :=
  (fields.filter fun m => (resultFields.map Prod.fst).contains m.1).map
    fun m => (m.1, knownValue m.1 m.2)

/-- A value without the fields that the format does not name. -/
def knownPart : Json → Json
  | .object fields => .object (knownFields fields)
  | v => v

theorem member?_filter {p : String → Bool} {name : String} (h : p name = true)
    (ms : List (String × Json)) :
    Json.member? name (ms.filter fun m => p m.1) = Json.member? name ms := by
  simp only [Json.member?, List.find?_filter]
  congr 2
  funext m
  by_cases hm : m.1 = name
  · simp [hm, h]
  · simp [hm]

theorem member?_map (f : String → Json → Json) (name : String) (ms : List (String × Json)) :
    Json.member? name (ms.map fun m => (m.1, f m.1 m.2)) = (Json.member? name ms).map (f name) := by
  induction ms with
  | nil => rfl
  | cons m ms ih =>
    by_cases hm : m.1 = name
    · simp [Json.member?, hm]
    · simpa [Json.member?, hm] using ih

/-- The known fields under the names of the format. -/
theorem member?_knownFields {name : String} (h : name ∈ resultFields.map Prod.fst)
    (fields : List (String × Json)) :
    Json.member? name (knownFields fields) = (Json.member? name fields).map (knownValue name) := by
  rw [knownFields, member?_map knownValue, member?_filter (List.contains_iff_mem.mpr h)]

theorem knownValue_of_ne {name : String} (h : name ≠ "discovered_issues") (v : Json) :
    knownValue name v = v := by
  cases v <;> simp [knownValue, h]

-- ---------------------------------------------------------------------------
-- The known part says the same
-- ---------------------------------------------------------------------------

theorem sameIssue_knownIssue (v : Json) : SameIssue (knownIssue v) v := by
  cases v with
  | object members =>
    refine .object fun name hName => ?_
    have hKnown : (issueMembers.map Prod.fst).contains name = true :=
      List.contains_iff_mem.mpr hName
    rw [field, member?_filter hKnown, field]
  | _ => exact .refl _

theorem sameValue_knownValue (name : String) (v : Json) :
    SameValue name (knownValue name v) v := by
  by_cases hName : name = "discovered_issues"
  · cases v with
    | array items =>
      have hItems : List.Forall₂ SameIssue (items.map knownIssue) items :=
        List.forall₂_map_left_iff.mpr
          (List.forall₂_same.mpr fun item _ => sameIssue_knownIssue item)
      simpa only [knownValue, if_pos hName] using SameValue.issues hName hItems
    | _ => exact .refl _
  · rw [knownValue_of_ne hName]
    exact .refl _

theorem sameFields_knownFields (fields : List (String × Json)) :
    SameFields (knownFields fields) fields := by
  intro name hName
  have hField : field (knownFields fields) name = knownValue name (field fields name) := by
    rw [field, field, member?_knownFields hName]
    cases Json.member? name fields <;> rfl
  rw [hField]
  exact sameValue_knownValue name _

/-- A value is read as its known part is. -/
theorem ofJson_knownPart (v : Json) : AgentResult.ofJson (knownPart v) = AgentResult.ofJson v := by
  cases v with
  | object fields => exact (sameFields_knownFields fields).ofJson_eq
  | _ => rfl

-- ---------------------------------------------------------------------------
-- Texts
-- ---------------------------------------------------------------------------

theorem exists_parse_iff {raw : String} : (∃ r, AgentResult.parse raw = .ok r) ↔
    ∃ fields, Json.Acceptable raw (.object fields) ∧ Conforms fields := by
  simp only [← Json.parse?_eq_some_iff, AgentResult.parse]
  cases Json.parse? raw with
  | none => simp
  | some v =>
    rw [exists_ofJson_iff]
    simp only [Option.some.injEq]

/-- A text is read as the value that it spells. -/
theorem AgentResult.parse_of_acceptable {raw : String} {v : Json} (h : Json.Acceptable raw v) :
    AgentResult.parse raw = AgentResult.ofJson v := by
  rw [AgentResult.parse, Json.parse?_eq_some_iff.mpr h]

/-- Only the error is dressed up for the run; a result is passed on as it is. -/
theorem AgentResult.read_eq_ok_iff {raw : String} {r : AgentResult} :
    AgentResult.read raw = .ok r ↔ AgentResult.parse raw = .ok r := by
  unfold AgentResult.read
  cases AgentResult.parse raw <;> simp

/-- A text that is refused is refused for a reason, with its start. -/
theorem read_eq_error {raw : String} {fault : OutputFault}
    (h : AgentResult.parse raw = .error fault) : AgentResult.read raw =
      .error (.invalidOutput fault.message (String.ofList (raw.toList.take 500))) := by
  rw [AgentResult.read, h]
  rfl

/--
A text holds a result exactly if it spells an object whose fields conform. Every
other text is refused with its first five hundred characters. Only the known part
of what a text spells is read, and of two members with one name the later counts.
-/
theorem AgentResult.read_exact (raw : String) :
    ((∃ r, AgentResult.read raw = .ok r) ↔
      ∃ fields, Json.Acceptable raw (.object fields) ∧ Conforms fields) ∧
    ((¬ ∃ fields, Json.Acceptable raw (.object fields) ∧ Conforms fields) →
      ∃ reason, AgentResult.read raw =
        .error (.invalidOutput reason (String.ofList (raw.toList.take 500)))) ∧
    (∀ v, Json.Acceptable raw v →
      AgentResult.parse raw = AgentResult.ofJson (knownPart v)) ∧
    ∀ name members, Json.get? name (Json.ofMembers members) =
      Json.member? name members.reverse := by
  have hRead : (∃ r, AgentResult.read raw = .ok r) ↔ ∃ r, AgentResult.parse raw = .ok r := by
    unfold AgentResult.read
    cases AgentResult.parse raw <;> simp
  refine ⟨hRead.trans exists_parse_iff, fun hRefused => ?_, fun v hv => ?_, Json.get?_ofMembers⟩
  · cases hParse : AgentResult.parse raw with
    | ok r => exact absurd (exists_parse_iff.mp ⟨r, hParse⟩) hRefused
    | error fault => exact ⟨fault.message, read_eq_error hParse⟩
  · rw [ofJson_knownPart, AgentResult.parse, Json.parse?_eq_some_iff.mpr hv]

/-- A text with a field that is written twice and with one that nothing reads. -/
theorem AgentResult.read_exact_extra :
    ∃ v, Json.Acceptable "\x7b\"success\": [], \"success\": true, \"x\": \"y\"\x7d" v ∧
      AgentResult.parse "\x7b\"success\": [], \"success\": true, \"x\": \"y\"\x7d" =
        AgentResult.ofJson (knownPart v) := by
  have h : Json.parse? "\x7b\"success\": [], \"success\": true, \"x\": \"y\"\x7d" =
      some (.object [("success", .bool true), ("x", .string "y")]) := by cbv
  have hv := Json.parse?_eq_some_iff.mp h
  exact ⟨_, hv, (AgentResult.read_exact _).2.2.1 _ hv⟩

end Errand
