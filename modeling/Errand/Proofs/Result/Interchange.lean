import Errand.Proofs.Result.Reading

/-!
# Errand — fields that say nothing

A field that is null may be left out and a field that is left out may be null, and under a
name that the format does not know there may be anything. The same holds of the members of an
issue. That goes for objects that are refused as well: they are refused for the same reason.
Every such change leaves an object that says the same, in the sense of `SameFields`.

* `field_setNull`, `field_takeOut`, `field_onIssues` — what is found in an object that is changed.
* `sameFields_onIssues`            — changes in the issues that come to the same.
* `AgentResult.ofJson_interchange` — null, absent and unknown fields are interchangeable.
-/

namespace Errand

open ResultFormat

-- ---------------------------------------------------------------------------
-- Changes that say nothing
-- ---------------------------------------------------------------------------

/-- Sets the fields of these names to null, those that are absent too. -/
def setNull (names : List String) (fields : List (String × Json)) : List (String × Json) :=
  names.foldl (fun fields name => Json.insertMember name .null fields) fields

/-- Takes the fields of these names out. -/
def takeOut (names : List String) (fields : List (String × Json)) : List (String × Json) :=
  fields.filter fun m => !names.contains m.1

/-- Changes the members of an issue; what is no object stays as it is. -/
def onIssue (f : List (String × Json) → List (String × Json)) : Json → Json
  | .object members => .object (f members)
  | v => v

/-- Changes the members of each issue of a list, by its place in it. -/
def onIssueList (f : Nat → List (String × Json) → List (String × Json)) : Json → Json
  | .array items => .array (items.mapIdx fun i => onIssue (f i))
  | v => v

/-- Changes the members of each issue that is found in these fields, by its place. -/
def onIssues (f : Nat → List (String × Json) → List (String × Json))
    (fields : List (String × Json)) : List (String × Json) :=
  fields.map fun m => (m.1, if m.1 = "discovered_issues" then onIssueList f m.2 else m.2)

theorem field_insertMember (other : String) (v : Json) (fields : List (String × Json))
    (name : String) :
    field (Json.insertMember other v fields) name =
      if other = name then v else field fields name := by
  by_cases hName : other = name
  · subst hName
    rw [field, Json.member?_insertMember_self, if_pos rfl]
    rfl
  · rw [field, Json.member?_insertMember_ne hName, if_neg hName, field]

theorem field_insertMember_self (name : String) (v : Json) (fields : List (String × Json)) :
    field (Json.insertMember name v fields) name = v :=
  (field_insertMember name v fields name).trans (if_pos rfl)

theorem field_insertMember_ne {name other : String} (h : name ≠ other) (v : Json)
    (fields : List (String × Json)) :
    field (Json.insertMember other v fields) name = field fields name :=
  (field_insertMember other v fields name).trans (if_neg h.symm)

theorem field_setNull (names : List String) (fields : List (String × Json)) (name : String) :
    field (setNull names fields) name = if name ∈ names then .null else field fields name := by
  induction names generalizing fields with
  | nil => rfl
  | cons first names ih =>
    have hNext := ih (Json.insertMember first .null fields)
    rw [setNull, List.foldl_cons, ← setNull, hNext, field_insertMember]
    by_cases hFirst : first = name
    · simp [hFirst]
    · simp [hFirst, Ne.symm hFirst]

theorem field_takeOut (names : List String) (fields : List (String × Json)) (name : String) :
    field (takeOut names fields) name = if name ∈ names then .null else field fields name := by
  by_cases hName : name ∈ names
  · have hNone : Json.member? name (takeOut names fields) = none := by
      simp only [Json.member?, takeOut, List.find?_filter, Option.map_eq_none_iff,
        List.find?_eq_none, decide_eq_true_eq, Bool.not_eq_true']
      rintro m - ⟨hOut, rfl⟩
      exact absurd (List.contains_iff_mem.mpr hName) (by simpa using hOut)
    rw [if_pos hName, field, hNone]
    rfl
  · have hKept : (!names.contains name) = true := by simpa using hName
    rw [if_neg hName, field, field, takeOut, member?_filter (p := fun n => !names.contains n) hKept]

/-- To set fields to null is as good as to take them out. -/
theorem field_setNull_eq_takeOut (names : List String) (fields : List (String × Json))
    (name : String) : field (setNull names fields) name = field (takeOut names fields) name := by
  rw [field_setNull, field_takeOut]

theorem field_onIssues (f : Nat → List (String × Json) → List (String × Json))
    (fields : List (String × Json)) (name : String) : field (onIssues f fields) name =
      if name = "discovered_issues" then onIssueList f (field fields name)
      else field fields name := by
  have hMember := member?_map
    (fun n v => if n = "discovered_issues" then onIssueList f v else v) name fields
  rw [field, onIssues, hMember, field]
  cases Json.member? name fields with
  | none => simp [onIssueList]
  | some v => rfl

/-- Objects whose issues are changed in ways that come to the same. -/
theorem sameFields_onIssues {f g : Nat → List (String × Json) → List (String × Json)}
    (h : ∀ i members, ∀ name ∈ issueNames, field (f i members) name = field (g i members) name)
    (fields : List (String × Json)) : SameFields (onIssues f fields) (onIssues g fields) := by
  have hIssue : ∀ (i : Nat) (v : Json), SameIssue (onIssue (f i) v) (onIssue (g i) v) := by
    intro i v
    cases v with
    | object members => exact .object (h i members)
    | _ => exact .refl _
  -- on the items, with the place of the first as a parameter
  have hItems : ∀ (items : List Json) (start : Nat), List.Forall₂ SameIssue
      (items.mapIdx fun i => onIssue (f (i + start)))
      (items.mapIdx fun i => onIssue (g (i + start))) := by
    intro items
    induction items with
    | nil => exact fun _ => .nil
    | cons item items ih =>
      intro start
      rw [List.mapIdx_cons, List.mapIdx_cons]
      refine .cons (hIssue _ item) ?_
      simpa only [Nat.add_assoc, Nat.add_comm 1] using ih (start + 1)
  intro name _
  rw [field_onIssues, field_onIssues]
  by_cases hName : name = "discovered_issues"
  · rw [if_pos hName, if_pos hName]
    cases field fields name with
    | array items => exact .issues hName (hItems items 0)
    | _ => exact .refl _
  · rw [if_neg hName, if_neg hName]
    exact .refl _

/-- To change nothing in each issue is to change nothing. -/
theorem onIssues_id (fields : List (String × Json)) : onIssues (fun _ members => members) fields =
    fields := by
  have hIssue : (onIssue fun members => members) = id := by
    funext v
    cases v <;> rfl
  have hList : ∀ v, onIssueList (fun _ members => members) v = v := by
    intro v
    cases v with
    | array items =>
      have hItems : (items.mapIdx fun _ => onIssue fun members => members) = items :=
        List.ext_getElem? fun i => by simp [hIssue]
      exact congrArg Json.array hItems
    | _ => rfl
  simp only [onIssues, hList, ite_self, List.map_id']

/-- What may be changed in an object without any change to what is read. -/
structure Interchangeable (fields : List (String × Json)) : Prop where
  /-- A text that spells the object is read as the object is. -/
  parsed : ∀ raw, Json.Acceptable raw (.object fields) →
    AgentResult.parse raw = AgentResult.ofJson (.object fields)
  /-- Fields may be null or absent. -/
  absent : ∀ names : List String, AgentResult.ofJson (.object (setNull names fields)) =
    AgentResult.ofJson (.object (takeOut names fields))
  /-- So may the members of each issue. -/
  absentInIssues : ∀ names : Nat → List String,
    AgentResult.ofJson (.object (onIssues (fun i => setNull (names i)) fields)) =
      AgentResult.ofJson (.object (onIssues (fun i => takeOut (names i)) fields))
  /-- There may be any fields of other names. -/
  unknown : ∀ fields' : List (String × Json),
    (∀ name ∈ resultNames, Json.member? name fields' = Json.member? name fields) →
      AgentResult.ofJson (.object fields') = AgentResult.ofJson (.object fields)
  /-- So may there be in each issue. -/
  unknownInIssues : ∀ f : Nat → List (String × Json) → List (String × Json),
    (∀ i members, ∀ name ∈ issueNames,
      Json.member? name (f i members) = Json.member? name members) →
      AgentResult.ofJson (.object (onIssues f fields)) = AgentResult.ofJson (.object fields)
  /-- Without any field of the names known, the result is the default. -/
  blank : (∀ name ∈ resultNames,
    Json.member? name fields = none ∨ Json.member? name fields = some .null) →
      AgentResult.ofJson (.object fields) = .ok {}

/--
**Null, absent and unknown fields are interchangeable**, in the result and in each of its
issues, whether the object holds a result or is refused.
-/
theorem AgentResult.ofJson_interchange (fields : List (String × Json)) :
    Interchangeable fields where
  parsed := fun _ hRaw => AgentResult.parse_of_acceptable hRaw
  absent := by
    intro names
    have hSame : SameFields (setNull names fields) (takeOut names fields) :=
      .of_eq fun name _ => field_setNull_eq_takeOut names fields name
    exact hSame.ofJson_eq
  absentInIssues := by
    intro names
    have hSame := sameFields_onIssues (f := fun i => setNull (names i))
      (g := fun i => takeOut (names i))
      (fun i members name _ => field_setNull_eq_takeOut (names i) members name) fields
    exact hSame.ofJson_eq
  unknown := by
    intro fields' hKnown
    have hSame : SameFields fields' fields :=
      .of_eq fun name hName => congrArg (·.getD .null) (hKnown name hName)
    exact hSame.ofJson_eq
  unknownInIssues := by
    intro f hKnown
    have hSame := sameFields_onIssues (f := f) (g := fun _ members => members)
      (fun i members name hName => congrArg (·.getD .null) (hKnown i members name hName)) fields
    rw [onIssues_id] at hSame
    exact hSame.ofJson_eq
  blank := by
    intro hBlank
    have hSame : SameFields fields [] := .of_eq fun name hName => by
      rcases hBlank name hName with hNone | hNull
      · rw [field, hNone]
        rfl
      · rw [field, hNull]
        rfl
    exact hSame.ofJson_eq

/-- An object that is refused for the title of an issue. It is refused for the same with the
priority of that issue left out, and with a member that the format does not name. -/
theorem AgentResult.ofJson_interchange_refused :
    let issue : List (String × Json) := [("priority", .null), ("title", .bool true)]
    let fields : List (String × Json) := [("discovered_issues", .array [.null, .object issue])]
    let named : List (String × Json) → List (String × Json) := Json.insertMember "id" (.bool true)
    AgentResult.ofJson (.object (onIssues (fun _ => takeOut ["priority"]) fields)) =
        AgentResult.ofJson (.object (onIssues (fun _ => setNull ["priority"]) fields)) ∧
      (∀ members, ∀ name ∈ issueNames, Json.member? name (named members) =
        Json.member? name members) ∧
      AgentResult.ofJson (.object (onIssues (fun _ => named) fields)) =
        AgentResult.ofJson (.object fields) ∧
      ResultFormat.violations (.object (onIssues (fun _ => named) fields)) =
        [.wrongKind .null [.object], .wrongKind (.bool true) [.null, .string]] := by
  intro issue fields named
  have hNamed : ∀ members, ∀ name ∈ issueNames,
      Json.member? name (named members) = Json.member? name members := by
    intro members name hName
    have hNe : "id" ≠ name := fun hEq => absurd (hEq ▸ hName) (by decide)
    exact Json.member?_insertMember_ne hNe _ members
  have hAll := AgentResult.ofJson_interchange fields
  exact ⟨(hAll.absentInIssues fun _ => ["priority"]).symm, hNamed,
    hAll.unknownInIssues (fun _ => named) (fun _ => hNamed), rfl⟩

end Errand
