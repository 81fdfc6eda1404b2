import Errand.RunError

/-!
# Errand — the task

What the agent is asked to work on: a text, a filed issue, or a text that came
through standard input and is piped on.

* `Task.ofInputs`    — exactly one of the three, or a usage error.
* `Task.wording`     — the text that the choice of mode looks at.
* `Task.describe`    — the task in a commit message.
* `commitMessage`    — a lead and the start of the description.
-/

namespace Errand

/-- What the agent is asked to work on. -/
inductive Task where
  | text (text : String)
  | issue (id : String)
  | stream (text : String)
  deriving DecidableEq, Inhabited, Repr

namespace Task

/-- The input that is there, each as an option. -/
def supplied (text issue stream : Option String) : Nat :=
  text.isSome.toNat + issue.isSome.toNat + stream.isSome.toNat

/--
The task that the inputs name. An issue is named by its trimmed id, which may
not be empty; nor may a text; a stream may.
-/
def ofInputs (text issue stream : Option String) : Except RunError Task :=
  if 1 < supplied text issue stream then
    .error (.usage "task text, --issue and --stdin are mutually exclusive")
  else
    match issue, stream, text with
    | some id, _, _ =>
      match Text.nonBlank? id with
      | some id => .ok (.issue id)
      | none => .error (.usage "--issue requires an id")
    | none, some stream, _ => .ok (.stream stream)
    | none, none, some text =>
      if text.isEmpty then .error (.usage "either a task, --issue, or --stdin is required")
      else .ok (.text text)
    | none, none, none => .error (.usage "either a task, --issue, or --stdin is required")

/-- The text that the choice of mode looks at; an issue has none. -/
def wording : Task → Option String
  | .text t | .stream t => some t
  | .issue _ => none

/-- The task in a commit message. -/
def describe : Task → String
  | .text t | .stream t => t
  | .issue id => "issue " ++ id

end Task

/-- How many characters of a description fit a commit message. -/
def subjectLength : Nat := 50

/-- A lead and the first characters of a description, with three dots if it was cut. -/
def commitMessage (lead description : String) : String :=
  let cs := description.toList
  lead ++ String.ofList (cs.take subjectLength) ++
    (if (cs.drop subjectLength).isEmpty then "" else "...")

end Errand
