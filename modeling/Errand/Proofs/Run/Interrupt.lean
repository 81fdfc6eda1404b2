import Errand.CommandLine.Run
import Errand.Proofs.Integration.Interrupt
import Errand.Proofs.Run.Course
import Errand.Rehearsal

/-!
# Errand — interrupts of a run

A collaborator that is killed by the interrupt may answer anything: a failure
that a run absorbs, a conflict, nothing to commit, or plain success. The run
does not go by the answer but looks at the cancel token between its parts.
Hence it starts nothing new once the token is tripped, and it tells of the
interrupt exactly if there was one.

* `Watched`            — what a part of a run makes of the token.
* `Request.Forward`    — the questions that carry a run forward.
* `dispatch_winds_up`  — after an interrupt a run only winds up.
* `Forthright`         — no agent calls itself interrupted; programs never do.
* `dispatch_interrupted_iff` — a run tells of the interrupt exactly if there was one.
* `Collaborators.perform_interrupted_iff` — so does a run with programs.
-/

namespace Errand

open Dialogue

variable {config : Config} {task : Task} {options : RunOptions} {o : Outcome}
  {integration : String} {i i' j : Bool} {t u : List Exchange} {r : Except RunError Outcome}

-- ---------------------------------------------------------------------------
-- The token through the parts of a run
-- ---------------------------------------------------------------------------

/--
A part of a run that begins with the token in state `i`, goes through `t` and
knows the token in state `i'` at its end: it asks nothing if the token is
tripped beforehand, it only winds up once it is, and it loses sight of no trip.
-/
structure Watched (integration : String) (i : Bool) (t : List Exchange) (i' : Bool) : Prop where
  silent : i = true → t = []
  quiet : Quiet integration [] t
  token : i' = (i || tripped t)

/-- Nothing asked, nothing tripped. -/
theorem Watched.nil : Watched integration i [] i := ⟨fun _ => rfl, quiet_nil, by simp⟩

/-- **Watched parts compose**: the second begins with what the first knows of the token. -/
theorem Watched.append (ht : Watched integration i t j) (hu : Watched integration j u i') :
    Watched integration i (t ++ u) i' := by
  have hStop : tripped t = true → u = [] := fun h => hu.silent (by simp [ht.token, h])
  refine ⟨fun hi => ?_, ?_, ?_⟩
  · rw [ht.silent hi, hu.silent (by simp [ht.token, hi])]
    rfl
  · exact ht.quiet.append (hu.quiet.mono (List.nil_subset _)) hStop
  · rw [hu.token, ht.token, tripped_append, Bool.or_assoc]

/-- A single exchange may trip the token; there is nothing after it. -/
theorem Watched.one {e : Exchange} (h : e.trips = i') : Watched integration false [e] i' :=
  ⟨nofun, windsUp_nil.quiet_cons, by simp [h]⟩

theorem Watched.cons {e : Exchange} (h : e.trips = j) (ht : Watched integration j t i') :
    Watched integration false (e :: t) i' := (Watched.one h).append ht

theorem Publishes.watched {settings : TrackerSettings} {p : Publication}
    {issues : List DiscoveredIssue} {r : Except RunError Publication}
    (h : Publishes settings i p issues t r i') : Watched integration i t i' := by
  induction h with
  | done | interrupted => exact .nil
  | filed others ih => exact .cons rfl ih

theorem Committer.integrate_watched {settings : GitSettings} {description : String}
    {files : List String} {r : Except RunError Integration} {c : Committer}
    (h : (integrate settings ⟨.clean, i⟩ description files).Leads t (r, c)) :
    Watched settings.integrationBranch i t c.interrupted := by
  rcases integrate_ends h with ⟨-, rfl, -, rfl⟩ | ⟨-, hEnds⟩
  · exact .nil
  · exact ⟨hEnds.silent rfl, hEnds.quiet rfl, hEnds.interrupted_eq⟩

theorem Concludes.watched {settings : NotifySettings} {recipient : Option String}
    (h : Concludes settings recipient o i t r i') : Watched integration i t i' := by
  cases h with
  | interrupted | nobody none => exact .nil
  | killed some trips => exact .one trips
  | told some calm => exact .one calm

theorem Integrates.watched (h : Integrates config task options o i t r i') :
    Watched config.git.integrationBranch i t i' := by
  cases h with
  | skipped unfit concludes => exact concludes.watched
  | failed fit merge => exact Committer.integrate_watched merge
  | merged fit merge concludes =>
    exact (Committer.integrate_watched merge).append concludes.watched

theorem Follows.watched (h : Follows config task options o i t r i') :
    Watched config.git.integrationBranch i t i' := by
  cases h with
  | dry dry => exact .nil
  | stopped wet filing => exact filing.watched
  | filed wet filing integrates => exact filing.watched.append integrates.watched

/-- **No part of a run loses sight of the token.** -/
theorem Dispatches.watched (h : Dispatches config task options i t r i') :
    Watched config.git.integrationBranch i t i' := by
  cases h with
  | never => exact .nil
  | killed trips => exact .one trips
  | failed calm error => exact .one calm
  | answered calm ok follows => exact .cons calm follows.watched

-- ---------------------------------------------------------------------------
-- Nothing new after an interrupt
-- ---------------------------------------------------------------------------

/-- The questions that carry a run forward: all but those that find or restore the branch. -/
def Request.Forward (integration : String) : Request → Prop
  | .invoke _ | .createIssue _ | .stageAll | .commit _ | .merge _ | .push _ _ | .send _ _ => True
  | .checkout b => b = integration
  | .currentBranch | .abortMerge => False

theorem Dialogue.WindsUp.not_forward {past after : List Exchange} {e : Exchange}
    (h : WindsUp integration past after) (he : e ∈ after) :
    ¬ e.request.Forward integration := by
  have hMem : e.request ∈ requests after := List.mem_map_of_mem he
  rcases h with h | ⟨b, -, apart, h⟩
  · have hOne := h.subset hMem
    rw [List.mem_singleton] at hOne
    simp [hOne, Request.Forward]
  · have hTwo := h.subset hMem
    rw [List.mem_cons, List.mem_singleton] at hTwo
    rcases hTwo with hAbort | hCheckout
    · simp [hAbort, Request.Forward]
    · simp [hCheckout, Request.Forward, apart]

/--
**After an interrupt a run only winds up**, whatever its collaborators answer.
With the token tripped beforehand it asks nothing at all. After the exchange
that trips the token it asks at most for the branch, or else at most ends the
merge and goes back to the branch that it was told before; nothing of what it
asks carries it forward.
-/
theorem dispatch_winds_up {σ : Type} (script : Script σ) (config : Config) (task : Task)
    (options : RunOptions) (started : Bool) (s : σ) :
    let trace := ((dispatch config task options started).run script s).2.1
    let integration := config.git.integrationBranch
    (started = true → trace = []) ∧
      ∀ before e after, trace = before ++ e :: after → e.answer.interrupted = true →
        WindsUp integration before after ∧ ∀ x ∈ after, ¬ x.request.Forward integration := by
  intro trace integration
  have hWatched : Watched integration started trace _ :=
    (dispatch_leads (run_leads script (dispatch config task options started) s)).watched
  refine ⟨hWatched.silent, fun before e after hSplit hTrips => ?_⟩
  have hWindsUp := hWatched.quiet before e after hSplit hTrips
  exact ⟨hWindsUp, fun x hx => hWindsUp.not_forward hx⟩

/-- The result of an agent that did its work. -/
def AgentResult.diligent : AgentResult :=
  { status := .completed, success := true, filesModified := ["README.md"] }

/-- An interrupt that comes with a merge which succeeds all the same. -/
theorem dispatch_winds_up_merge :
    let s : Rehearsal :=
      { agentResult := .ok .diligent, merges := [⟨true, none, .merged⟩] }
    let trace := ((dispatch {} (.issue "vc-1") {} false).run Rehearsal.answer s).2.1
    ∃ before e after, trace = before ++ e :: after ∧ e.request = .merge "work" ∧
      requests after = [.abortMerge, .checkout "work"] ∧ WindsUp "main" before after := by
  intro s trace
  obtain ⟨-, h⟩ := dispatch_winds_up Rehearsal.answer {} (.issue "vc-1") {} false s
  exact ⟨trace.take 5, _, trace.drop 6, rfl, rfl, rfl, (h _ _ _ rfl rfl).1⟩

-- ---------------------------------------------------------------------------
-- Forthright agents
-- ---------------------------------------------------------------------------

/-- An agent calls itself interrupted. -/
def Dialogue.Exchange.Pretends (e : Exchange) : Prop :=
  match e with
  | ⟨.invoke _, a⟩ => a.reply = .error .interrupted
  | _ => False

/-- No agent of this trace calls itself interrupted. -/
def Forthright (t : List Exchange) : Prop := ∀ e ∈ t, ¬ e.Pretends

/-- In a rehearsal an agent is as forthright as its cue. -/
theorem Rehearsal.forthright {α : Type} {s : Rehearsal} (h : s.agentResult ≠ .error .interrupted)
    (d : Dialogue α) : Forthright (d.run answer s).2.1 := by
  refine run_forall (I := fun s => s.agentResult ≠ .error .interrupted) ?_ d s h
  intro r s hs
  cases r with
  | invoke q => exact ⟨hs, hs⟩
  | _ => exact ⟨id, hs⟩

/-- An agent that is a program leaves an output or none at all; it cannot speak of interrupts. -/
theorem interpretOutput_ne_interrupted (timeoutSecs : Option Nat) (out : ChildOutput) :
    interpretOutput timeoutSecs out ≠ .error .interrupted := by
  unfold interpretOutput AgentResult.read
  split
  case isTrue hTimedOut => simp
  case isFalse hInTime =>
    split
    case isTrue hBroken => simp
    case isFalse hLegible =>
      split <;> simp [RunError.ofOutput]

theorem Agent.invoke_ne_interrupted {σ : Type} (host : Host (StateM σ))
    (settings : AgentSettings) (echo : Bool) (q : AgentRequest) (s : σ) :
    ((Agent.invoke host settings echo q).run s).1 ≠ .error .interrupted := by
  unfold Agent.invoke
  rw [StateT.run_bind]
  rcases (host.run (Agent.command settings echo q)).run s with ⟨reply, s'⟩
  cases reply with
  | error f => exact nofun
  | ok out => exact interpretOutput_ne_interrupted _ out

/-- The programs of a run as a script, in a place that is a state. -/
def Collaborators.script {σ : Type} (c : Collaborators (StateM σ)) : Script σ :=
  fun r s => (c.answer r).run s

/-- **Programs are forthright**: no agent that is a program calls itself interrupted. -/
theorem Collaborators.forthright {σ α : Type} (c : Collaborators (StateM σ)) (d : Dialogue α)
    (s : σ) : Forthright (d.run c.script s).2.1 := by
  refine run_forall (I := fun _ => True) ?_ d s trivial
  intro r s _
  refine ⟨?_, trivial⟩
  cases r with
  | invoke q => exact Agent.invoke_ne_interrupted c.host c.config.agent c.echo q s
  | _ => exact id

-- ---------------------------------------------------------------------------
-- Interrupts are told exactly
-- ---------------------------------------------------------------------------

theorem Publishes.error_eq {settings : TrackerSettings} {p : Publication}
    {issues : List DiscoveredIssue} {e : RunError}
    (h : Publishes settings i p issues t (.error e) i') : e = .interrupted ∧ i' = true := by
  generalize hr : (Except.error e : Except RunError Publication) = r at h
  induction h with
  | done => cases hr
  | interrupted =>
    cases hr
    exact ⟨rfl, rfl⟩
  | filed others ih => exact ih hr

theorem Concludes.error_iff {settings : NotifySettings} {recipient : Option String}
    (h : Concludes settings recipient o i t r i') : r = .error .interrupted ↔ i' = true := by
  cases h <;> simp

theorem Integrates.error_iff (h : Integrates config task options o i t r i') :
    r = .error .interrupted ↔ i' = true := by
  cases h with
  | skipped unfit concludes => exact concludes.error_iff
  | failed fit merge =>
    have hToken := (Committer.integrate_watched merge).token
    obtain ⟨hError, -⟩ := Committer.integrate_error_iff merge
    rw [hToken, ← hError, Except.error.injEq]
  | merged fit merge concludes => exact concludes.error_iff

/-- A run that is only tried out does not look at the token again, and need not. -/
theorem Follows.error_iff (h : Follows config task options o false t r i') :
    r = .error .interrupted ↔ i' = true := by
  cases h with
  | dry dry => simp
  | stopped wet filing =>
    obtain ⟨rfl, rfl⟩ := filing.error_eq
    simp
  | filed wet filing integrates => exact integrates.error_iff

theorem Dispatches.error_iff (h : Dispatches config task options i t r i')
    (ht : Forthright t) : r = .error .interrupted ↔ i' = true := by
  cases h with
  | never => simp
  | killed trips => simp
  | @failed a e calm error =>
    have hOther : e ≠ .interrupted := by
      rintro rfl
      exact ht _ (List.mem_singleton_self _) error
    simp [hOther]
  | answered calm ok follows => exact follows.error_iff

/-- **A run with programs tells of the interrupt exactly if there was one**, without
any assumption on the programs. -/
theorem Collaborators.perform_interrupted_iff {σ : Type} (c : Collaborators (StateM σ))
    (s : σ) :
    let started := c.host.interrupted.run s
    let trace := ((dispatch c.config task options started.1).run c.script started.2).2.1
    ((c.perform task options).run s).1 = .error .interrupted ↔
      (started.1 || tripped trace) = true := by
  intro started trace
  let d := dispatch c.config task options started.1
  have hRan := dispatch_leads (run_leads c.script d started.2)
  have hPlay : ((c.perform task options).run s).1 = (d.run c.script started.2).1.1 :=
    congrArg (·.1.1) (play_run c.answer d started.2)
  rw [hPlay, ← hRan.watched.token]
  exact hRan.error_iff (c.forthright d started.2)

namespace CommandLine

variable {json : Bool}

/-- Only an interrupt ends the program with its exit code. -/
theorem finished_code_interrupted :
    (finished json r).code = interruptedCode ↔ r = .error .interrupted := by
  cases r with
  | error e => cases e <;> simp [finished, aborted, interruptedCode, failedCode]
  | ok o =>
    cases h : o.succeeded <;>
      simp [finished, reported, h, interruptedCode, failedCode, okCode]

/-- Only a success ends the program well. -/
theorem finished_code_ok :
    (finished json r).code = okCode ↔ ∃ o, r = .ok o ∧ o.result.success = true := by
  cases r with
  | error e => cases e <;> simp [finished, aborted, interruptedCode, failedCode, okCode]
  | ok o =>
    cases h : o.result.success <;>
      simp [finished, reported, Outcome.succeeded, h, failedCode, okCode]

/-- There is one more exit code, for everything else. -/
theorem finished_code_cases :
    (finished json r).code = interruptedCode ∨ (finished json r).code = okCode ∨
      (finished json r).code = failedCode := by
  cases r with
  | error e => cases e <;> simp [finished, aborted]
  | ok o => cases h : o.succeeded <;> simp [finished, reported, h]

end CommandLine

/--
**Interrupts are told exactly.** A run whose agent does not call itself
interrupted ends with the interrupt if and only if the token is tripped by
then, whatever the call that was killed answered. So the program exits with
130 exactly then, with 0 exactly if the run came to a success, and else with 1.
And whatever a committer went through before, the error of its call is the
interrupt if and only if the token is tripped by then, and else a failed commit.
-/
theorem dispatch_interrupted_iff {σ : Type} (script : Script σ) (config : Config) (task : Task)
    (options : RunOptions) (started json : Bool) (s : σ) :
    (let ran := (dispatch config task options started).run script s
      let trips := started || tripped ran.2.1
      let code := (CommandLine.finished json ran.1.1).code
      Forthright ran.2.1 →
        (ran.1.1 = .error .interrupted ↔ trips = true) ∧
        (code = 130 ↔ trips = true) ∧
        (code = 0 ↔ ∃ o, ran.1.1 = .ok o ∧ o.result.success = true) ∧
        (code ≠ 130 → code ≠ 0 → code = 1)) ∧
    ∀ settings (c : Committer) description files e,
      let ran := (c.integrate settings description files).run script s
      ran.1.1 = .error e →
        (e = .interrupted ↔ (c.interrupted || tripped ran.2.1) = true) ∧
        (e ≠ .interrupted → ∃ detail, e = .commitFailed detail) := by
  refine ⟨?_, ?_⟩
  · intro ran trips code forthright
    have hRan := dispatch_leads (run_leads script (dispatch config task options started) s)
    have hError : ran.1.1 = .error .interrupted ↔ trips = true := by
      rw [show trips = ran.1.2 from hRan.watched.token.symm]
      exact hRan.error_iff forthright
    refine ⟨hError, ?_, CommandLine.finished_code_ok, fun hNot hNotOk => ?_⟩
    · rw [← hError]
      exact CommandLine.finished_code_interrupted
    · rcases CommandLine.finished_code_cases with hCode | hCode | hCode
      · exact absurd hCode hNot
      · exact absurd hCode hNotOk
      · exact hCode
  · intro settings c description files e ran hr
    have hRan : (c.integrate settings description files).Leads ran.2.1 (ran.1.1, ran.1.2) :=
      run_leads script _ s
    rw [hr] at hRan
    exact Committer.integrate_error_iff hRan

/-- An interrupt that kills a push, which the merge would have absorbed as a warning. -/
theorem dispatch_interrupted_iff_push :
    let s : Rehearsal :=
      { agentResult := .ok .diligent, pushes := [⟨true, some (.of "killed"), ()⟩] }
    let ran := (dispatch {} (.issue "vc-1") {} false).run Rehearsal.answer s
    Forthright ran.2.1 ∧ tripped ran.2.1 = true ∧ ran.1.1 = .error .interrupted ∧
      (CommandLine.finished false ran.1.1).code = 130 := by
  intro s ran
  have forthright : Forthright ran.2.1 := Rehearsal.forthright (by simp [s]) _
  obtain ⟨hRun, -⟩ :=
    dispatch_interrupted_iff Rehearsal.answer {} (.issue "vc-1") {} false false s
  obtain ⟨hError, hCode, -⟩ := hRun forthright
  exact ⟨forthright, rfl, hError.mpr rfl, hCode.mpr rfl⟩

end Errand
