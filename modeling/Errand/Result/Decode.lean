import Errand.Json.Reader
import Errand.Result.Basic
import Errand.Result.Format
import Errand.RunError

/-!
# Errand — reading an agent's result

A result is read in three steps, and the first that fails gives the reason:
the text is a structured value, the value has the format of a result, and its
whole numbers are in range.

* `AgentResult.parse`        — the result that a text holds, or the reason why not.
* `DiscoveredIssue.ofJson?`  — a discovered issue on its own.
* `wholeNumber?`             — the integer that a number stands for.
-/

namespace Errand

open Number (Double)

-- ---------------------------------------------------------------------------
-- Reasons
-- ---------------------------------------------------------------------------

/-- Why a text holds no result. -/
inductive OutputFault where
  /-- The text is no structured value. -/
  | notJson
  /-- The value does not have the format of a result. -/
  | illFormed (faults : List ResultFormat.Violation)
  /-- The number of iterations is out of range. -/
  | badCount (n : Json.Number)
  /-- A priority is too large to be a level. -/
  | badPriority (d : Double)

/-- The text of a reason. What is wrong with a text that is no structured value is not told: one
text stands for every account of it. -/
def OutputFault.message : OutputFault → String
  | .notJson => "<json syntax error>"
  | .illFormed faults =>
    "schema validation failed:\n- " ++
      String.intercalate "\n- " (faults.map ResultFormat.Violation.message)
  | .badCount n => n.text ++ " is not a valid count"
  | .badPriority d => "priority " ++ d.plainText ++ " is not a whole number"

-- ---------------------------------------------------------------------------
-- Whole numbers
-- ---------------------------------------------------------------------------

/-- Doubles from this magnitude on do not count as whole numbers. -/
def wholeLimit : Nat := Nat.pow 10 18

/-- The integer that a double stands for, if it has no fraction and is below the limit. -/
def wholeNumber? (d : Double) : Option Int :=
  match d.toInt? with
  | some n => if n.natAbs < wholeLimit then some n else none
  | none => none

/-- The largest number of iterations. -/
def maxCount : Nat := Nat.pow 2 32 - 1

/-- The number of iterations that a number stands for. -/
def count? (n : Json.Number) : Option Nat :=
  let whole := match n with
    | .int n => some n
    | .double d => wholeNumber? d
  match whole with
  | some n => if 0 ≤ n ∧ n ≤ maxCount then some n.toNat else none
  | none => none

/-- An integer is a level if it fits 63 bits and a sign. -/
def isLevel (n : Int) : Bool := -(Nat.pow 2 63 : Int) ≤ n && n < Nat.pow 2 63

/-- The priority that a value stands for; null stands for none. -/
def Priority.ofJson : Json → Except OutputFault (Option Priority)
  | .number (.int n) =>
    if isLevel n then .ok (some (.level n)) else .error (.badPriority (Double.ofInt n))
  | .number (.double d) =>
    match wholeNumber? d with
    | some n => .ok (some (.level n))
    | none => .error (.badPriority d)
  | .string s => .ok (some (.label s))
  | _ => .ok none

-- ---------------------------------------------------------------------------
-- Fields
-- ---------------------------------------------------------------------------

/-- The member of this name; an absent one counts as null. -/
def field (fields : List (String × Json)) (name : String) : Json :=
  (Json.member? name fields).getD .null

/-- The texts among some values. -/
def texts (items : List Json) : List String := items.filterMap Json.asString?

/-- The duration that a value stands for; null is zero. -/
def duration : Json → Double
  | .number (.int n) => Double.ofInt n
  | .number (.double d) => d
  | _ => ⟨0⟩

/-- A discovered issue whose members have the right kinds. -/
def DiscoveredIssue.ofFields (fields : List (String × Json)) :
    Except OutputFault DiscoveredIssue := do
  let priority ← Priority.ofJson (field fields "priority")
  .ok { title := (field fields "title").asString?,
        description := (field fields "description").asString?,
        issueType := (field fields "type").asString?,
        priority := priority }

/-- The number of iterations; null is zero. -/
def iterationsOf : Json → Except OutputFault Nat
  | .number n =>
    match count? n with
    | some k => .ok k
    | none => .error (.badCount n)
  | _ => .ok 0

/-- The result in the fields of a value that has its format. -/
def AgentResult.ofFields (fields : List (String × Json)) : Except OutputFault AgentResult := do
  let get := field fields
  let found := ((get "discovered_issues").asArray?.getD []).map fun item =>
    item.asObject?.getD []
  let issues ← found.mapM DiscoveredIssue.ofFields
  let iterations ← iterationsOf (get "iterations")
  .ok { status := ((get "status").asString?.map AgentStatus.ofName).getD .unknown,
        success := (get "success").asBool?.getD false,
        iterations := iterations,
        converged := (get "converged").asBool?.getD false,
        durationSeconds := duration (get "duration_seconds"),
        filesModified := texts ((get "files_modified").asArray?.getD []),
        qualityGates := (get "quality_gates").asObject?.getD [],
        discoveredIssues := issues,
        puntedItems := texts ((get "punted_items").asArray?.getD []),
        summary := (get "summary").asString?.getD "",
        error := (get "error").asString?,
        message := (get "message").asString?,
        decomposition :=
          if (get "decomposition").isNull then none else some (get "decomposition") }

/-- The result that a structured value holds. -/
def AgentResult.ofJson (v : Json) : Except OutputFault AgentResult :=
  match ResultFormat.violations v with
  | [] => AgentResult.ofFields (v.asObject?.getD [])
  | faults => .error (.illFormed faults)

/-- The result that a text holds, or the reason why it holds none. -/
def AgentResult.parse (raw : String) : Except OutputFault AgentResult :=
  match Json.parse? raw with
  | none => .error .notJson
  | some v => AgentResult.ofJson v

/-- The result that a text holds, or the error of a run whose agent printed it. -/
def AgentResult.read (raw : String) : Except RunError AgentResult :=
  match AgentResult.parse raw with
  | .ok result => .ok result
  | .error fault => .error (RunError.ofOutput fault.message raw)

-- ---------------------------------------------------------------------------
-- A discovered issue on its own
-- ---------------------------------------------------------------------------

/-- A text or null. -/
def isOptionalText : Json → Bool
  | .null | .string _ => true
  | _ => false

/-- A number, a text or null. -/
def isOptionalPriority : Json → Bool
  | .null | .string _ | .number _ => true
  | _ => false

/-- The members of an issue that is written as an array, which may stop early. -/
def issueOrder : List String := ["title", "description", "type", "priority"]

/-- A discovered issue outside a result: an object, or an array of its members in order. -/
def DiscoveredIssue.ofJson? (v : Json) : Option DiscoveredIssue := do
  let fields ← match v with
    | .object fields => some fields
    | .array items => if items.length ≤ issueOrder.length then some (issueOrder.zip items) else none
    | _ => none
  let textsOk := ["title", "description", "type"].all fun name =>
    isOptionalText (field fields name)
  if textsOk && isOptionalPriority (field fields "priority") then
    (DiscoveredIssue.ofFields fields).toOption
  else none

end Errand
