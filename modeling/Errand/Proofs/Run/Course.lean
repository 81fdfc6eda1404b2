import Errand.Dispatch
import Errand.Proofs.Dialogue

/-!
# Errand — the courses of a whole run

A run asks the agent, files the issues, merges the changes and replies. Each
of these parts may be the last one, and after each the run looks at the cancel
token. The relations here say what a run can go through, one for each part and
everything after it; what happens within a merge is left to the courses of that.

* `Publishes`  — the filing of some issues.
* `Concludes`  — the reply, and the end of the run.
* `Integrates` — the merge, if there is to be one, and then the reply.
* `Follows`    — everything after the agent.
* `Dispatches` — the whole run.
* `dispatch_leads` — every course of a run is one of these.
-/

namespace Errand

open Dialogue (Exchange)

variable {config : Config} {task : Task} {options : RunOptions} {o : Outcome}
  {i i' : Bool} {t : List Exchange} {r : Except RunError Outcome}

-- ---------------------------------------------------------------------------
-- The parts of a run
-- ---------------------------------------------------------------------------

/-- The filing of the issues that are left, on top of what became of those before. -/
inductive Publishes (settings : TrackerSettings) : Bool → Publication → List DiscoveredIssue →
    List Exchange → Except RunError Publication → Bool → Prop
  | done {i : Bool} {p : Publication} : Publishes settings i p [] [] (.ok p) i
  | interrupted {p : Publication} {issue : DiscoveredIssue} {rest : List DiscoveredIssue} :
      Publishes settings true p (issue :: rest) [] (.error .interrupted) true
  | filed {p : Publication} {issue : DiscoveredIssue} {rest : List DiscoveredIssue}
      {a : Answer (.createIssue (buildRequest settings issue))} {t : List Exchange}
      {r : Except RunError Publication} {i' : Bool}
      (others : Publishes settings a.interrupted
        (p.record (buildRequest settings issue) a.reply) rest t r i') :
      Publishes settings false p (issue :: rest) (⟨_, a⟩ :: t) r i'

/-- The reply to the originator, if there is somebody to read it, and the end of the run. -/
inductive Concludes (settings : NotifySettings) (recipient : Option String) (o : Outcome) :
    Bool → List Exchange → Except RunError Outcome → Bool → Prop
  | interrupted : Concludes settings recipient o true [] (.error .interrupted) true
  | nobody (none : (recipient.filter fun r => !Text.isBlank r) = none) :
      Concludes settings recipient o false [] (.ok { o with notified := false }) false
  | killed {name : String} (some : (recipient.filter fun r => !Text.isBlank r) = some name)
      {a : Answer (.send name (replyText settings.template o.result.success o.result.summary))}
      (trips : a.interrupted = true) :
      Concludes settings recipient o false [⟨_, a⟩] (.error .interrupted) true
  | told {name : String} (some : (recipient.filter fun r => !Text.isBlank r) = some name)
      {a : Answer (.send name (replyText settings.template o.result.success o.result.summary))}
      (calm : a.interrupted = false) :
      Concludes settings recipient o false [⟨_, a⟩] (.ok { o with notified := a.reply.toBool })
        false

/-- The merge, if the result is to be merged, and then the reply. -/
inductive Integrates (config : Config) (task : Task) (options : RunOptions) (o : Outcome)
    (i : Bool) : List Exchange → Except RunError Outcome → Bool → Prop
  | skipped {t : List Exchange} {r : Except RunError Outcome} {i' : Bool}
      (unfit : o.result.isIntegrable = false)
      (concludes : Concludes config.notify options.recipient o i t r i') :
      Integrates config task options o i t r i'
  | failed {t : List Exchange} {e : RunError} {c : Committer} (fit : o.result.isIntegrable = true)
      (merge : (Committer.integrate config.git ⟨.clean, i⟩ task.describe
        o.result.filesModified).Leads t (.error e, c)) :
      Integrates config task options o i t (.error e) c.interrupted
  | merged {t u : List Exchange} {n : Integration} {c : Committer} {r : Except RunError Outcome}
      {i' : Bool} (fit : o.result.isIntegrable = true)
      (merge : (Committer.integrate config.git ⟨.clean, i⟩ task.describe
        o.result.filesModified).Leads t (.ok n, c))
      (concludes : Concludes config.notify options.recipient
        { o with merged := some n.merged, warnings := o.warnings ++ n.warnings }
        c.interrupted u r i') :
      Integrates config task options o i (t ++ u) r i'

/-- Everything after the agent. -/
inductive Follows (config : Config) (task : Task) (options : RunOptions) (o : Outcome)
    (i : Bool) : List Exchange → Except RunError Outcome → Bool → Prop
  | dry (dry : options.dryRun = true) : Follows config task options o i [] (.ok o) i
  | stopped {t : List Exchange} {e : RunError} {i' : Bool} (wet : options.dryRun = false)
      (filing : Publishes config.tracker i {} o.result.discoveredIssues t (.error e) i') :
      Follows config task options o i t (.error e) i'
  | filed {t u : List Exchange} {p : Publication} {j i' : Bool} {r : Except RunError Outcome}
      (wet : options.dryRun = false)
      (filing : Publishes config.tracker i {} o.result.discoveredIssues t (.ok p) j)
      (integrates : Integrates config task options
        { o with createdIssues := p.created, warnings := p.warnings } j u r i') :
      Follows config task options o i (t ++ u) r i'

/-- The question that a run asks its agent. -/
def agentRequest (task : Task) (options : RunOptions) : AgentRequest :=
  ⟨Mode.resolve options.choice task.wording, task⟩

/-- A whole run. -/
inductive Dispatches (config : Config) (task : Task) (options : RunOptions) :
    Bool → List Exchange → Except RunError Outcome → Bool → Prop
  | never : Dispatches config task options true [] (.error .interrupted) true
  | killed {a : Answer (.invoke (agentRequest task options))} (trips : a.interrupted = true) :
      Dispatches config task options false [⟨_, a⟩] (.error .interrupted) true
  | failed {a : Answer (.invoke (agentRequest task options))} {e : RunError}
      (calm : a.interrupted = false) (error : a.reply = .error e) :
      Dispatches config task options false [⟨_, a⟩] (.error e) false
  | answered {a : Answer (.invoke (agentRequest task options))} {result : AgentResult}
      {t : List Exchange} {r : Except RunError Outcome} {i' : Bool}
      (calm : a.interrupted = false) (ok : a.reply = .ok result)
      (follows : Follows config task options
        { mode := (agentRequest task options).mode, result := result, dryRun := options.dryRun }
        false t r i') :
      Dispatches config task options false (⟨_, a⟩ :: t) r i'

-- ---------------------------------------------------------------------------
-- Every course of a run is one of these
-- ---------------------------------------------------------------------------

theorem publish_leads {settings : TrackerSettings} {p : Publication}
    {issues : List DiscoveredIssue} {r : Except RunError Publication}
    (h : (publish settings i p issues).Leads t (r, i')) :
    Publishes settings i p issues t r i' := by
  induction issues generalizing i p t with
  | nil =>
    obtain ⟨rfl, hv⟩ := Dialogue.leads_done_iff.mp h
    cases hv
    exact .done
  | cons issue rest ih =>
    unfold publish at h
    split at h
    case isTrue hi =>
      subst hi
      obtain ⟨rfl, hv⟩ := Dialogue.leads_done_iff.mp h
      cases hv
      exact .interrupted
    case isFalse hi =>
      rw [Bool.not_eq_true] at hi
      subst hi
      rw [Dialogue.leads_ask_iff] at h
      obtain ⟨a, u, rfl, h⟩ := h
      exact .filed (ih h)

theorem conclude_leads {settings : NotifySettings} {recipient : Option String}
    (h : (conclude settings recipient o i).Leads t (r, i')) :
    Concludes settings recipient o i t r i' := by
  unfold conclude at h
  split at h
  case isTrue hi =>
    subst hi
    obtain ⟨rfl, hv⟩ := Dialogue.leads_pure_iff.mp h
    cases hv
    exact .interrupted
  case isFalse hi =>
    rw [Bool.not_eq_true] at hi
    subst hi
    rw [Dialogue.leads_bind_iff] at h
    obtain ⟨u, notice, v, rfl, hn, h⟩ := h
    unfold notify at hn
    split at hn
    case h_1 hNone =>
      obtain ⟨rfl, rfl⟩ := Dialogue.leads_done_iff.mp hn
      obtain ⟨rfl, hv⟩ := Dialogue.leads_pure_iff.mp h
      cases hv
      exact .nobody hNone
    case h_2 name hSome =>
      rw [Dialogue.leads_ask_iff] at hn
      obtain ⟨a, w, rfl, hn⟩ := hn
      obtain ⟨rfl, rfl⟩ := Dialogue.leads_done_iff.mp hn
      dsimp only [Bool.false_or] at h
      split at h
      case isTrue hTrips =>
        obtain ⟨rfl, hv⟩ := Dialogue.leads_pure_iff.mp h
        cases hv
        rw [hTrips]
        exact .killed hSome hTrips
      case isFalse hCalm =>
        rw [Bool.not_eq_true] at hCalm
        obtain ⟨rfl, hv⟩ := Dialogue.leads_pure_iff.mp h
        cases hv
        rw [hCalm]
        exact .told hSome hCalm

theorem mergeAndConclude_leads (h : (mergeAndConclude config task options o i).Leads t (r, i')) :
    Integrates config task options o i t r i' := by
  unfold mergeAndConclude at h
  split at h
  case isTrue fit =>
    dsimp only at h
    rw [Dialogue.leads_bind_iff] at h
    obtain ⟨u, ⟨reply, c⟩, v, rfl, hMerge, h⟩ := h
    cases reply with
    | error e =>
      obtain ⟨rfl, hv⟩ := Dialogue.leads_pure_iff.mp h
      cases hv
      rw [List.append_nil]
      exact .failed fit hMerge
    | ok n => exact .merged fit hMerge (conclude_leads h)
  case isFalse unfit =>
    exact .skipped (by simpa using unfit) (conclude_leads h)

theorem follow_leads (h : (follow config task options o i).Leads t (r, i')) :
    Follows config task options o i t r i' := by
  unfold follow at h
  split at h
  case isTrue dry =>
    obtain ⟨rfl, hv⟩ := Dialogue.leads_pure_iff.mp h
    cases hv
    exact .dry dry
  case isFalse wet =>
    rw [Bool.not_eq_true] at wet
    rw [Dialogue.leads_bind_iff] at h
    obtain ⟨u, ⟨reply, j⟩, v, rfl, hFiling, h⟩ := h
    cases reply with
    | error e =>
      obtain ⟨rfl, hv⟩ := Dialogue.leads_pure_iff.mp h
      cases hv
      rw [List.append_nil]
      exact .stopped wet (publish_leads hFiling)
    | ok p => exact .filed wet (publish_leads hFiling) (mergeAndConclude_leads h)

/-- **Every course of a run** is one of those of `Dispatches`. -/
theorem dispatch_leads (h : (dispatch config task options i).Leads t (r, i')) :
    Dispatches config task options i t r i' := by
  unfold dispatch at h
  split at h
  case isTrue hi =>
    subst hi
    obtain ⟨rfl, hv⟩ := Dialogue.leads_pure_iff.mp h
    cases hv
    exact .never
  case isFalse hi =>
    rw [Bool.not_eq_true] at hi
    subst hi
    rw [Dialogue.leads_ask_iff] at h
    obtain ⟨a, u, rfl, h⟩ := h
    split at h
    case isTrue hTrips =>
      obtain ⟨rfl, hv⟩ := Dialogue.leads_done_iff.mp h
      cases hv
      rw [hTrips]
      exact .killed hTrips
    case isFalse hCalm =>
      rw [Bool.not_eq_true] at hCalm
      cases hr : a.reply with
      | error e =>
        rw [hr] at h
        obtain ⟨rfl, hv⟩ := Dialogue.leads_done_iff.mp h
        cases hv
        rw [hCalm]
        exact .failed hCalm hr
      | ok result =>
        rw [hr, hCalm] at h
        exact .answered hCalm hr (follow_leads h)

end Errand
