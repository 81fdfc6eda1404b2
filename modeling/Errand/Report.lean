import Errand.Json.Printer
import Errand.Outcome

/-!
# Errand — the report of a run

The two forms in which a run is reported: lines for a reader, and one
structured value for a program.

* `Outcome.humanReport` — one fact a line.
* `Outcome.reportValue`, `Outcome.jsonReport` — the ten members of the report,
  and their pretty text.
-/

namespace Errand

namespace Warning

/-- A warning as a structured value. -/
def toJson (w : Warning) : Json :=
  .object (w.members.map fun (name, text) => (name, .string text))

end Warning

namespace Outcome

/-- The line about merging, for a run that came so far. -/
def mergeLine : Option Bool → List String
  | some true => ["Merged: yes"]
  | some false => ["Merged: no (manual resolution needed)"]
  | none => []

/-- The word for a truth value. -/
def truth (b : Bool) : String := if b then "true" else "false"

/-- The lines of the report; what is empty or did not happen has none. -/
def humanLines (o : Outcome) : List String :=
  let r := o.result
  ["Status: " ++ r.status.name,
   "Success: " ++ truth r.success,
   "Mode: " ++ o.mode.name,
   "Duration: " ++ r.durationSeconds.fixedPlaces 1 ++ "s",
   "Iterations: " ++ toString r.iterations] ++
  (if r.summary.isEmpty then [] else ["Summary: " ++ r.summary]) ++
  ["Files modified: " ++ toString r.filesModified.length,
   "Discovered issues: " ++ toString r.discoveredIssues.length] ++
  (if o.createdIssues.isEmpty then []
   else ["Created issues: " ++ String.intercalate ", " o.createdIssues]) ++
  mergeLine o.merged ++
  (if o.dryRun then ["Dry run: issues, commit and reply skipped"] else []) ++
  (o.warnings.map fun w => "Warning: " ++ w.message) ++
  match r.error with
  | some e => if e.isEmpty then [] else ["Error: " ++ e]
  | none => []

/-- The report for a reader. -/
def humanReport (o : Outcome) : String := String.intercalate "\n" o.humanLines

/-- A count as a structured value. -/
def countValue (n : Nat) : Json := .number (.int n)

/-- The report as a structured value, its members in their fixed order. -/
def reportValue (o : Outcome) : Json :=
  .object
    [("status", .string o.result.status.name),
     ("success", .bool o.result.success),
     ("summary", .string o.result.summary),
     ("files_modified", countValue o.result.filesModified.length),
     ("discovered_issues", countValue o.result.discoveredIssues.length),
     ("mode", .string o.mode.name),
     ("dry_run", .bool o.dryRun),
     ("merged", match o.merged with
       | some b => .bool b
       | none => .null),
     ("created_issues", .array (o.createdIssues.map .string)),
     ("warnings", .array (o.warnings.map Warning.toJson))]

/-- The report for a program. -/
def jsonReport (o : Outcome) : String := o.reportValue.pretty

end Outcome

end Errand
