import Errand.Agent
import Errand.Proofs.Run.Interrupt
import Errand.Proofs.Run.Party
import Errand.Proofs.Text.Decoder
import Errand.Proofs.Text.Trimming
import Errand.Rehearsal

/-!
# Errand — from the caller's inputs to the agent

A task comes in one of three ways and goes on in the same way: a text and the id of an issue
on the agent's command line, a stream through its standard input. What the user wrote is an
argument of its own, so it can look like a flag and is none: the arguments and the piped text
of two requests differ whenever the requests do. The same holds of the tracker's requests.

* `Task.Given`                     — the inputs that name a task, and the task.
* `AgentRequest.Aims`              — what an agent is told of the task's inputs.
* `Mode.Decided`                   — the mode that choice and wording decide on.
* `Task.ofInputs_eq_ok_iff`        — exactly the inputs that name a task are accepted.
* `Dispatches.heard_agent`         — what a run asks its agent.
* `AgentRequest.eq_of_args_eq`, `IssueRequest.args_injective` — no two requests are told alike.
* `inputs_reach_agent`             — all of this for any inputs and any run.
-/

namespace Errand

open Dialogue (Exchange Script tripped AskedOf heard requests run_leads)

variable {text issue stream : Option String} {task : Task}

-- ---------------------------------------------------------------------------
-- What is meant
-- ---------------------------------------------------------------------------

/-- The inputs that name a task: one of three, which is not empty, not blank, or any stream. -/
inductive Task.Given : Option String → Option String → Option String → Task → Prop
  | text {t : String} (filled : t ≠ "") : Given (some t) none none (.text t)
  | issue {s id : String} (shows : Text.Shows s) (trimmed : Text.Trimmed s.toList id.toList) :
      Given none (some s) none (.issue id)
  | stream {t : String} : Given none none (some t) (.stream t)

/-- The words that name the task on an agent's command line, and the text piped to it. -/
inductive AgentRequest.Aims :
    Option String → Option String → Option String → List String → Option String → Prop
  | text {t : String} : Aims (some t) none none ["--task", t] none
  | issue {s id : String} (trimmed : Text.Trimmed s.toList id.toList) :
      Aims none (some s) none ["--issue", id] none
  | stream {t : String} : Aims none none (some t) ["--stdin"] (some t)

/-- The mode that a caller's choice and a task's wording decide on. -/
inductive Mode.Decided : Mode.Choice → Option String → Mode → Prop
  | lite {wording : Option String} : Decided .lite wording .lite
  | full {wording : Option String} : Decided .full wording .full
  | wording {t : String} (filled : t ≠ "") : Decided .auto (some t) (Mode.select t)
  | empty : Decided .auto (some "") .full
  | issue : Decided .auto none .full

-- ---------------------------------------------------------------------------
-- The task of some inputs
-- ---------------------------------------------------------------------------

namespace Task

/-- **Exactly the inputs that name a task are accepted**, and as that task. -/
theorem ofInputs_eq_ok_iff : ofInputs text issue stream = .ok task ↔
    Given text issue stream task := by
  constructor
  · intro h
    unfold ofInputs at h
    split at h
    · cases h
    rename_i hOne
    split at h
    · rename_i s
      -- an issue that is accepted is the only input
      obtain ⟨rfl, rfl⟩ : text = none ∧ stream = none := by
        cases text <;> cases stream <;> simp_all [supplied]
      split at h
      · rename_i id hId
        cases h
        obtain ⟨shows, trimmed⟩ := Text.nonBlank?_eq_some_iff.mp hId
        exact .issue shows trimmed
      · cases h
    · obtain rfl : text = none := by
        cases text <;> simp_all [supplied]
      cases h
      exact .stream
    · split at h
      · cases h
      · rename_i hFilled
        cases h
        exact .text (by simpa using hFilled)
    · cases h
  · rintro (filled | ⟨shows, trimmed⟩ | _)
    · simp [ofInputs, supplied, filled]
    · simp [ofInputs, supplied, Text.nonBlank?_eq_some_iff.mpr ⟨shows, trimmed⟩]
    · simp [ofInputs, supplied]

/-- A task is named by exactly one input, which is not empty and not blank. -/
theorem exists_ofInputs_iff : (∃ task, ofInputs text issue stream = .ok task) ↔
    supplied text issue stream = 1 ∧ (∀ t ∈ text, t ≠ "") ∧ ∀ s ∈ issue, Text.Shows s := by
  simp only [ofInputs_eq_ok_iff]
  constructor
  · rintro ⟨_, filled | ⟨shows, -⟩ | _⟩
    · simp [supplied, filled]
    · simp [supplied, shows]
    · simp [supplied]
  · rintro ⟨hOne, hText, hIssue⟩
    match text, issue, stream, hOne with
    | some t, none, none, _ => exact ⟨_, .text (hText t rfl)⟩
    | none, some s, none, _ => exact ⟨_, .issue (hIssue s rfl) (Text.trimmed_trim s)⟩
    | none, none, some t, _ => exact ⟨_, .stream⟩

/-- The text or the stream is the wording that the choice of mode looks at. -/
theorem Given.wording_eq (h : Given text issue stream task) : task.wording = text.or stream := by
  cases h <;> rfl

/-- What an agent is told of a task is what the inputs say. -/
theorem Given.aims (h : Given text issue stream task) (mode : Mode) :
    AgentRequest.Aims text issue stream (AgentRequest.target task)
      (AgentRequest.input ⟨mode, task⟩) := by
  cases h with
  | text filled => exact .text
  | issue shows trimmed => exact .issue trimmed
  | stream => exact .stream

end Task

/-- The mode of a run is the one decided on. -/
theorem Mode.decided_resolve (choice : Mode.Choice) (wording : Option String) :
    Mode.Decided choice wording (Mode.resolve choice wording) := by
  cases choice with
  | lite => exact .lite
  | full => exact .full
  | auto =>
    cases wording with
    | none => exact .issue
    | some t =>
      by_cases hEmpty : t = ""
      · subst hEmpty
        exact .empty
      · have hResolve : Mode.resolve .auto (some t) = Mode.select t := by
          simp [Mode.resolve, hEmpty]
        rw [hResolve]
        exact .wording hEmpty

-- ---------------------------------------------------------------------------
-- What a run asks its agent
-- ---------------------------------------------------------------------------

section Heard

variable {config : Config} {options : RunOptions} {o : Outcome} {i i' : Bool}
  {t : List Exchange} {r : Except RunError Outcome}

/-- Behind the agent's answer the agent is not asked again. -/
theorem Follows.heard_agent (h : Follows config task options o i t r i') :
    heard .agent t = [] := by
  have hMerge {o : Outcome} {j : Bool} {u : List Exchange}
      (h : Integrates config task options o j u r i') : heard .agent u = [] := by
    cases h with
    | skipped unfit concludes => exact concludes.askedOf.heard_other (by decide)
    | failed fit merge =>
      exact (Committer.integrate_askedOf merge).heard_other (by decide)
    | merged fit merge concludes =>
      rw [(Committer.integrate_askedOf merge).heard_append_other (by decide)]
      exact concludes.askedOf.heard_other (by decide)
  cases h with
  | dry dry => rfl
  | stopped wet filing => exact filing.askedOf.heard_other (by decide)
  | filed wet filing integrates =>
    rw [filing.askedOf.heard_append_other (by decide)]
    exact hMerge integrates

/-- **A run asks its agent once**, unless its token was tripped beforehand. -/
theorem Dispatches.heard_agent (h : Dispatches config task options i t r i') :
    requests (heard .agent t) = if i then [] else [.invoke (agentRequest task options)] := by
  cases h with
  | never => rfl
  | killed trips | failed calm error => rfl
  | @answered a result u _ _ calm ok follows =>
    have hOwn : heard .agent (⟨_, a⟩ :: u) = ⟨_, a⟩ :: heard .agent u :=
      Dialogue.heard_cons_self rfl
    rw [hOwn, follows.heard_agent]
    rfl

end Heard

-- ---------------------------------------------------------------------------
-- No two requests are told alike
-- ---------------------------------------------------------------------------

namespace AgentRequest

/-- Only the mode is told by the flag in front, whatever the user wrote. -/
theorem mode_eq_lite_iff (q : AgentRequest) :
    q.mode = .lite ↔ q.args.head? = some "--lite" := by
  obtain ⟨mode, task⟩ := q
  cases mode <;> cases task <;> simp [args, target]

/-- The words and the piped text of a task are those of no other task. -/
theorem eq_of_target_eq {mode : Mode} {task task' : Task} (hWords : target task = target task')
    (hInput : input ⟨mode, task⟩ = input ⟨mode, task'⟩) : task = task' := by
  cases task <;> cases task' <;> simp_all [target, input]

/-- **Requests with the same arguments and the same piped bytes are the same.** -/
theorem eq_of_args_eq {q q' : AgentRequest} (hArgs : q.args = q'.args)
    (hInput : q.input.map Text.encode = q'.input.map Text.encode) : q = q' := by
  have hLite : q.mode = .lite ↔ q'.mode = .lite := by
    rw [mode_eq_lite_iff, mode_eq_lite_iff, hArgs]
  obtain ⟨mode, task⟩ := q
  obtain ⟨mode', task'⟩ := q'
  obtain rfl : mode = mode' := by
    cases mode <;> cases mode' <;> simp_all
  have hWords : target task = target task' := List.append_cancel_left hArgs
  have hText := Option.map_injective Text.encode_injective hInput
  rw [eq_of_target_eq hWords hText]

end AgentRequest

/-- **Two requests to the tracker with the same arguments are the same.** -/
theorem IssueRequest.args_injective : Function.Injective IssueRequest.args := by
  rintro ⟨title, description, issueType, priority, label⟩
    ⟨title', description', issueType', priority', label'⟩ h
  cases description <;> cases description' <;> simp_all [IssueRequest.args]

-- ---------------------------------------------------------------------------
-- The theorem
-- ---------------------------------------------------------------------------

/-- What an agent is told is what the inputs and the caller's choice say. -/
structure AgentRequest.Conveys (text issue stream : Option String) (choice : Mode.Choice)
    (q : AgentRequest) : Prop where
  mode : Mode.Decided choice (text.or stream) q.mode
  /-- The arguments are the flag of the mode and then the words that name the task. -/
  words : ∃ words, AgentRequest.Aims text issue stream words q.input ∧
    q.args = (if q.mode = .lite then ["--lite"] else []) ++ words
  /-- The child gets the arguments behind those of the settings, and reads the piped text. -/
  child : ∀ settings echo,
    (Agent.command settings echo q).arguments = settings.command.tail ++ q.args ∧
      (Agent.command settings echo q).input = q.input.map Text.encode

/-- What inputs come to, as a task and as a request to the agent. -/
structure Unmistaken (text issue stream : Option String) : Prop where
  /-- Inputs are accepted exactly if there is one of them and it is not empty and not blank. -/
  accepted : (∃ task, Task.ofInputs text issue stream = .ok task) ↔
    Task.supplied text issue stream = 1 ∧ (∀ t ∈ text, t ≠ "") ∧ ∀ s ∈ issue, Text.Shows s
  given : ∀ task, Task.ofInputs text issue stream = .ok task ↔ Task.Given text issue stream task
  /-- A run of the task asks its agent once, and for what the inputs say. -/
  asked : ∀ (σ : Type) (script : Script σ) (config : Config) (task : Task) (options : RunOptions)
    (started : Bool) (s : σ), Task.ofInputs text issue stream = .ok task →
    ∃ q : AgentRequest, q.Conveys text issue stream options.choice ∧
      requests (heard .agent ((dispatch config task options started).run script s).2.1) =
        if started then [] else [.invoke q]
  /-- Another request to an agent has other arguments or another piped text, -/
  agent : ∀ q q' : AgentRequest, q.args = q'.args →
    q.input.map Text.encode = q'.input.map Text.encode → q = q'
  /-- and another request to the tracker has other arguments. -/
  tracker : ∀ r r' : IssueRequest, r.args = r'.args → r = r'

/-- **Inputs reach the agent as they are**, or they are refused; nothing is mistaken for
anything else on the way. -/
theorem inputs_reach_agent (text issue stream : Option String) :
    Unmistaken text issue stream where
  accepted := Task.exists_ofInputs_iff
  given _ := Task.ofInputs_eq_ok_iff
  asked := by
    intro σ script config task options started s hTask
    have hGiven := Task.ofInputs_eq_ok_iff.mp hTask
    have hRan := dispatch_leads (run_leads script (dispatch config task options started) s)
    refine ⟨agentRequest task options, ?_, hRan.heard_agent⟩
    have hMode := Mode.decided_resolve options.choice task.wording
    rw [hGiven.wording_eq] at hMode
    exact {
      mode := by
        rw [agentRequest, hGiven.wording_eq]
        exact hMode
      words := ⟨_, hGiven.aims _, rfl⟩
      child := fun settings echo => ⟨rfl, rfl⟩ }
  agent _ _ := AgentRequest.eq_of_args_eq
  tracker _ _ h := IssueRequest.args_injective h

/-- A text that looks like a flag is passed on as a text, and nothing is piped. -/
theorem inputs_reach_agent_flag :
    let run := dispatch {} (.text "--stdin") {} false
    let ran := run.run Rehearsal.answer { agentResult := .ok .diligent }
    Task.ofInputs (some "--stdin") none none = .ok (.text "--stdin") ∧
      ∃ q : AgentRequest, q.Conveys (some "--stdin") none none .auto ∧
        requests (heard .agent ran.2.1) = [.invoke q] ∧
        q.args = ["--lite", "--task", "--stdin"] ∧ q.input = none := by
  intro run ran
  have hTask : Task.ofInputs (some "--stdin") none none = .ok (.text "--stdin") := rfl
  obtain ⟨q, hConveys, hAsked⟩ := (inputs_reach_agent (some "--stdin") none none).asked _
    Rehearsal.answer {} _ {} false { agentResult := .ok .diligent } hTask
  refine ⟨hTask, q, hConveys, hAsked, ?_⟩
  have hRan : requests (heard .agent ran.2.1) = [.invoke (agentRequest (.text "--stdin") {})] := rfl
  obtain rfl : q = agentRequest (.text "--stdin") {} := by
    have hSame := hAsked.symm.trans hRan
    simpa using hSame
  exact ⟨by decide +kernel, rfl⟩

end Errand
