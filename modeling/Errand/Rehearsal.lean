import Errand.Agent
import Errand.Dialogue

/-!
# Errand — rehearsed collaborators

A run can be rehearsed without any program: every collaborator answers from a
queue of cues, and the repository is no more than the name of the branch that
is checked out. A queue that is used up goes on with plain success.

* `Cue`               — one prepared answer, and whether it comes with an interrupt.
* `Rehearsal`         — the queues, the branch and the cancel token.
* `Rehearsal.answer`  — the script that a dialogue is run against.
-/

namespace Errand

/-- A prepared answer: an interrupt that comes with it, and a failure in place of the value. -/
structure Cue (α : Type) where
  interrupts : Bool := false
  failure : Option Failure := none
  value : α

namespace Cue

variable {α : Type}

/-- What the caller hears. -/
def reply (c : Cue α) : Except Failure α :=
  match c.failure with
  | some f => .error f
  | none => .ok c.value

/-- The next cue of a queue, plain success once it is used up, and the rest. -/
def next (success : α) : List (Cue α) → Cue α × List (Cue α)
  | [] => ({ value := success }, [])
  | c :: rest => (c, rest)

end Cue

/-- The queues of all collaborators. -/
structure Rehearsal where
  /-- The cancel token has been tripped. -/
  interrupted : Bool := false
  /-- The branch that is checked out. -/
  branch : String := "work"
  agentInterrupts : Bool := false
  agentResult : Except RunError AgentResult := .error .interrupted
  issues : List (Cue (Option String)) := []
  stages : List (Cue Unit) := []
  commits : List (Cue CommitStatus) := []
  /-- A cue without a name answers with the branch that is checked out. -/
  branches : List (Cue (Option String)) := []
  checkouts : List (Cue Unit) := []
  merges : List (Cue MergeStatus) := []
  aborts : List (Cue Unit) := []
  pushes : List (Cue Unit) := []
  messages : List (Cue Unit) := []

namespace Rehearsal

/-- The rehearsal after the token was tripped, if it was. -/
def trip (s : Rehearsal) (tripped : Bool) : Rehearsal :=
  { s with interrupted := s.interrupted || tripped }

/-- An answer in the light of the token, and the rehearsal after it. -/
def respond {r : Request} (s : Rehearsal) (reply : r.Reply) (interrupts : Bool) :
    Answer r × Rehearsal :=
  let s := s.trip interrupts
  (⟨reply, s.interrupted⟩, s)

/-- The script: every question takes the next cue of its queue. -/
def answer : Dialogue.Script Rehearsal
  | .invoke _, s => s.respond s.agentResult s.agentInterrupts
  | .createIssue _, s =>
    let (cue, rest) := Cue.next none s.issues
    { s with issues := rest }.respond cue.reply cue.interrupts
  | .stageAll, s =>
    let (cue, rest) := Cue.next () s.stages
    { s with stages := rest }.respond cue.reply cue.interrupts
  | .commit _, s =>
    let (cue, rest) := Cue.next .committed s.commits
    { s with commits := rest }.respond cue.reply cue.interrupts
  | .currentBranch, s =>
    let (cue, rest) := Cue.next none s.branches
    let answer := cue.reply.map fun (name : Option String) => name.getD s.branch
    { s with branches := rest }.respond answer cue.interrupts
  | .checkout b, s =>
    let (cue, rest) := Cue.next () s.checkouts
    let branch := if cue.failure.isNone then b else s.branch
    { s with checkouts := rest, branch := branch }.respond cue.reply cue.interrupts
  | .merge _, s =>
    let (cue, rest) := Cue.next .merged s.merges
    { s with merges := rest }.respond cue.reply cue.interrupts
  | .abortMerge, s =>
    let (cue, rest) := Cue.next () s.aborts
    { s with aborts := rest }.respond cue.reply cue.interrupts
  | .push _ _, s =>
    let (cue, rest) := Cue.next () s.pushes
    { s with pushes := rest }.respond cue.reply cue.interrupts
  | .send _ _, s =>
    let (cue, rest) := Cue.next () s.messages
    { s with messages := rest }.respond cue.reply cue.interrupts

end Rehearsal

end Errand
