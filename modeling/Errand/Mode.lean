import Errand.Text.Letters
import Errand.Text.Blank

/-!
# Errand — how thorough a run is

An agent works on a task in one of two modes, and unless the caller insists on
one the wording of the task decides.

* `Mode.select`  — the mode that a task's wording asks for.
* `Mode.resolve` — the caller's choice if there is one, else the wording's.
-/

namespace Errand

/-- How the agent works on a task. -/
inductive Mode where
  /-- Preparation, assessment and several iterations. -/
  | full
  /-- A single pass. -/
  | lite
  deriving DecidableEq, Inhabited, Repr

namespace Mode

/-- The mode's name in reports. -/
def name : Mode → String
  | .full => "full"
  | .lite => "lite"

/-- A caller's say in the choice of mode. -/
inductive Choice where
  | auto
  | lite
  | full
  deriving DecidableEq, Inhabited, Repr

/-- A text with fewer characters than this is short. -/
def shortLength : Nat := 50

/-- Words of small edits, each of which asks for a single pass. -/
def trivialWords : List String :=
  ["typo", "fix comment", "update readme", "rename", "fix spelling", "add comment",
   "remove comment", "whitespace", "formatting", "capitalize", "punctuation"]

/-- Words of demanding work, each of which asks for the full mode even in a short text. -/
def demandingWords : List String :=
  ["implement", "refactor", "redesign", "integrate", "migrate", "add feature", "security",
   "authentication"]

/-- One of the words occurs in the text. -/
def mentions (text : List Char) (words : List String) : Bool :=
  words.any fun w => Text.contains text w.toList

/--
The mode that a task's wording asks for: a word of small edits always means a
single pass; apart from those, a short text means one too unless it names
demanding work, and a long text never does. Words are found in any case.
-/
def select (text : String) : Mode :=
  let lowered := (Text.lowercase text).toList
  if mentions lowered trivialWords then .lite
  else if text.length < shortLength then
    if mentions lowered demandingWords then .full else .lite
  else .full

/-- The caller's choice, or the wording's; a task without wording gets the full mode. -/
def resolve (choice : Choice) (text : Option String) : Mode :=
  match choice, text with
  | .lite, _ => .lite
  | .full, _ => .full
  | .auto, none => .full
  | .auto, some text => if text.isEmpty then .full else select text

end Mode

end Errand
