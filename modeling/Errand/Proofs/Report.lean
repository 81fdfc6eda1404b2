import Errand.Proofs.Json.Distinct
import Errand.Report

/-!
# Errand — a report tells how a run turned out

A program that starts a run sees its report and nothing else of it. From the report it can
read back all that a report is about, whatever the texts in it hold, and no other run has the
same report unless it turned out the same. A count is read back as far as a machine counts;
that two counts differ is seen without that bound.

* `Account`                — what a report is about.
* `Warning.ofJson?`, `Account.ofJson?` — a reader of reports.
* `Account.ofJson?_sorted` — the reader on the value of a report.
* `Outcome.Countable`      — lists as long as a machine can count.
* `jsonReport_tells`       — what the text of a report tells.
-/

namespace Errand

open Json (Plain IsWord Acceptable)

-- ---------------------------------------------------------------------------
-- What a report is about
-- ---------------------------------------------------------------------------

/-- What a report is about. -/
structure Account where
  status : AgentStatus
  success : Bool
  summary : String
  filesModified : Nat
  discoveredIssues : Nat
  mode : Mode
  dryRun : Bool
  merged : Option Bool
  createdIssues : List String
  warnings : List Warning
  deriving DecidableEq

/-- How a run turned out, as far as a report is about it. -/
def Outcome.account (o : Outcome) : Account where
  status := o.result.status
  success := o.result.success
  summary := o.result.summary
  filesModified := o.result.filesModified.length
  discoveredIssues := o.result.discoveredIssues.length
  mode := o.mode
  dryRun := o.dryRun
  merged := o.merged
  createdIssues := o.createdIssues
  warnings := o.warnings

/-- The names of the members of a report, in order. -/
def reportNames : List String :=
  ["created_issues", "discovered_issues", "dry_run", "files_modified", "merged", "mode", "status",
    "success", "summary", "warnings"]

-- ---------------------------------------------------------------------------
-- A reader of reports
-- ---------------------------------------------------------------------------

namespace Json

/-- The member of this name, if it is a text. -/
def textAt? (name : String) (v : Json) : Option String := (v.get? name).bind asString?

/-- The count that a number says. -/
def asCount? : Json → Option Nat
  | .number (.int (.ofNat n)) => some n
  | _ => none

/-- A truth value, or `null` for none. -/
def asChoice? : Json → Option (Option Bool)
  | .null => some none
  | .bool b => some (some b)
  | _ => none

end Json

/-- The warning of a structured value: its kind says which texts it has. -/
def Warning.ofJson? (v : Json) : Option Warning := do
  match ← v.textAt? "kind" with
  | "issue_creation_failed" =>
    some (.issueCreationFailed (← v.textAt? "title") (← v.textAt? "reason"))
  | "merge_conflict" => some (.mergeConflict (← v.textAt? "branch") (← v.textAt? "detail"))
  | "push_failed" => some (.pushFailed (← v.textAt? "branch") (← v.textAt? "detail"))
  | "branch_not_restored" =>
    some (.branchNotRestored (← v.textAt? "branch") (← v.textAt? "detail"))
  | _ => none

/-- The mode of a name. -/
def Mode.ofName? : String → Option Mode
  | "full" => some .full
  | "lite" => some .lite
  | _ => none

/-- What a structured value says as a report. -/
def Account.ofJson? (v : Json) : Option Account := do
  some {
    status := .ofName (← v.textAt? "status")
    success := ← (← v.get? "success").asBool?
    summary := ← v.textAt? "summary"
    filesModified := ← (← v.get? "files_modified").asCount?
    discoveredIssues := ← (← v.get? "discovered_issues").asCount?
    mode := ← (v.textAt? "mode").bind Mode.ofName?
    dryRun := ← (← v.get? "dry_run").asBool?
    merged := ← (← v.get? "merged").asChoice?
    createdIssues := ← ((← v.get? "created_issues").asArray?).bind (List.mapM Json.asString?)
    warnings := ← ((← v.get? "warnings").asArray?).bind (List.mapM Warning.ofJson?) }

-- ---------------------------------------------------------------------------
-- The value of a report
-- ---------------------------------------------------------------------------

theorem Json.sortedItems_eq_map (items : List Json) :
    Json.sortedItems items = items.map sorted := by
  induction items with
  | nil => rfl
  | cons v vs ih => rw [sortedItems, ih, List.map_cons]

theorem Warning.ofJson?_sorted (w : Warning) : Warning.ofJson? w.toJson.sorted = some w := by
  cases w <;>
    simp [toJson, members, Json.sorted, Json.sortedMembers, Json.get?_ofMembers,
      ofJson?, Json.textAt?, Json.member?, Json.asString?]

theorem mapM_map_eq_some {α β : Type} {f : α → β} {g : β → Option α} (h : ∀ x, g (f x) = some x)
    (xs : List α) : (xs.map f).mapM g = some xs := by
  induction xs with
  | nil => rfl
  | cons x xs ih => simp [h, ih]

theorem Mode.ofName?_name (m : Mode) : ofName? m.name = some m := by
  cases m <;> rfl

/-- A truth value, or `null` for none, as a structured value. -/
def Json.ofChoice : Option Bool → Json
  | some b => .bool b
  | none => .null

theorem Json.asChoice?_ofChoice (choice : Option Bool) :
    (ofChoice choice).asChoice? = some choice := by
  cases choice <;> rfl

/-- The value of a report with its members in order. -/
theorem Outcome.reportValue_sorted (o : Outcome) : o.reportValue.sorted =
    .object
      [("created_issues", .array (o.createdIssues.map .string)),
       ("discovered_issues", countValue o.result.discoveredIssues.length),
       ("dry_run", .bool o.dryRun),
       ("files_modified", countValue o.result.filesModified.length),
       ("merged", .ofChoice o.merged),
       ("mode", .string o.mode.name),
       ("status", .string o.result.status.name),
       ("success", .bool o.result.success),
       ("summary", .string o.result.summary),
       ("warnings", .array (o.warnings.map fun w => w.toJson.sorted))] := by
  have hCreated : Json.sortedItems (o.createdIssues.map .string) = o.createdIssues.map .string := by
    rw [Json.sortedItems_eq_map, List.map_map]
    rfl
  have hWarnings : Json.sortedItems (o.warnings.map Warning.toJson) =
      o.warnings.map fun w => w.toJson.sorted := by
    rw [Json.sortedItems_eq_map, List.map_map]
    rfl
  rw [← hCreated, ← hWarnings]
  obtain ⟨_, _, _, _, merged, _, _⟩ := o
  cases merged <;> rfl

/-- **The value of a report is read back**, with its members in order. -/
theorem Account.ofJson?_sorted (o : Outcome) : ofJson? o.reportValue.sorted = some o.account := by
  have hCreated : (o.createdIssues.map Json.string).mapM Json.asString? = some o.createdIssues :=
    mapM_map_eq_some (f := Json.string) (g := Json.asString?) (fun _ => rfl) _
  have hWarnings : (o.warnings.map fun w => w.toJson.sorted).mapM Warning.ofJson? =
      some o.warnings := mapM_map_eq_some Warning.ofJson?_sorted _
  rw [o.reportValue_sorted]
  simp [ofJson?, Json.textAt?, Json.get?, Json.member?, Json.asString?, Json.asBool?,
    Json.asArray?, Json.asCount?, Outcome.countValue, Json.asChoice?_ofChoice, hCreated,
    hWarnings, Mode.ofName?_name, AgentStatus.ofName_name, Outcome.account, -List.mapM_map]

-- ---------------------------------------------------------------------------
-- The text of a report
-- ---------------------------------------------------------------------------

/-- The lists of an outcome are no longer than a machine can count. -/
structure Outcome.Countable (o : Outcome) : Prop where
  files : o.result.filesModified.length < 2 ^ 64
  issues : o.result.discoveredIssues.length < 2 ^ 64

theorem isWord_ofNat {n : Nat} (h : n < 2 ^ 64) : IsWord (n : Int) := by
  have hSign : ¬ (n : Int) < 0 := by omega
  rw [IsWord, decide_eq_false hSign]
  simpa [Json.FitsWord] using h

theorem Warning.plain_toJson {fits : Int → Prop} (depth : Nat) (w : Warning) :
    Plain fits (depth + 1) w.toJson := by
  refine .object fun m hm => ?_
  obtain ⟨entry, -, rfl⟩ := List.mem_map.mp hm
  exact .string

/-- A report holds no double, and at most three of its values stand inside each other. -/
theorem Outcome.plain_reportValue {fits : Int → Prop} (depth : Nat) (o : Outcome)
    (hFiles : fits o.result.filesModified.length)
    (hIssues : fits o.result.discoveredIssues.length) :
    Plain fits (depth + 3) o.reportValue := by
  have hCreated : Plain fits (depth + 2) (.array (o.createdIssues.map .string)) := by
    refine .array fun v hv => ?_
    obtain ⟨id, -, rfl⟩ := List.mem_map.mp hv
    exact .string
  have hWarnings : Plain fits (depth + 2) (.array (o.warnings.map Warning.toJson)) := by
    refine .array fun v hv => ?_
    obtain ⟨w, -, rfl⟩ := List.mem_map.mp hv
    exact w.plain_toJson depth
  have hMerged : Plain fits (depth + 2) (match o.merged with
      | some b => .bool b
      | none => .null) := by
    cases o.merged with
    | none => exact .null
    | some b => exact .bool
  refine .object ?_
  simp only [List.forall_mem_cons]
  exact ⟨.string, .bool, .string, .number hFiles, .number hIssues, .string, .bool, hMerged,
    hCreated, hWarnings, nofun⟩

/-- What the text of a report tells of a run. -/
structure Outcome.Told (o : Outcome) : Prop where
  /-- It is an object of the ten members, from which all is read back, -/
  reads : o.Countable → ∃ members, Acceptable o.jsonReport (.object members) ∧
    members.map Prod.fst = reportNames ∧ Account.ofJson? (.object members) = some o.account
  /-- and the text of no run that turned out otherwise. -/
  apart : ∀ o' : Outcome, o.jsonReport = o'.jsonReport → o.account = o'.account

/-- **The text of a report tells how the run turned out.** -/
theorem jsonReport_tells (o : Outcome) : o.Told where
  reads := by
    intro hCountable
    have hPlain : Plain IsWord 127 o.reportValue := o.plain_reportValue 124
      (isWord_ofNat hCountable.files) (isWord_ofNat hCountable.issues)
    have hRead := Account.ofJson?_sorted o
    have hText := Json.parse?_eq_some_iff.mp (Json.parse?_pretty hPlain)
    rw [o.reportValue_sorted] at hRead hText
    exact ⟨_, hText, rfl, hRead⟩
  apart := by
    intro o' hSame
    have hPlain (o : Outcome) : Plain (fun _ => True) 3 o.reportValue :=
      o.plain_reportValue 0 trivial trivial
    have hValue := Json.pretty_injective (hPlain o) (hPlain o') hSame
    have hRead := Account.ofJson?_sorted o
    rw [hValue, Account.ofJson?_sorted] at hRead
    exact (Option.some.inj hRead).symm

/-- Quotes, backslashes, line feeds and other controls in a report are read back. -/
theorem jsonReport_tells_escapes :
    let o : Outcome :=
      { mode := .lite
        result :=
          { status := .partly
            summary := "a \"b\"\\\n\u0001\u2028"
            filesModified := ["é"] }
        createdIssues := ["vc-\""]
        merged := some false
        warnings := [.pushFailed "main" "\r\n", .issueCreationFailed "" "\t"] }
    o.Countable ∧ ∃ members, Acceptable o.jsonReport (.object members) ∧
      members.map Prod.fst = reportNames ∧ Account.ofJson? (.object members) = some o.account := by
  intro o
  have hCountable : o.Countable := ⟨by decide, by decide⟩
  exact ⟨hCountable, (jsonReport_tells o).reads hCountable⟩

end Errand
