import Errand.Proofs.Integration.Account
import Errand.Proofs.Run.Interrupt

/-!
# Errand — the order and the account of a run

A run asks its agent, then the tracker, then the repository, then the
messenger, and each only if there is something to ask. What it reports at the
end is what these four answered, with nothing lost, and an answer that ends it
is followed by nothing but the way back to the working branch.

* `InOrder`  — what the agent's answer makes a run ask of the others.
* `Accounts` — the outcome of a run, read off its trace.
* `Dispatches.inOrder`, `Dispatches.accounts` — every course is in order and accounted for.
* `Dispatches.halts`, `Dispatches.error_iff_cause` — what ends a run, and what follows.
* `dispatch_in_order` — all of this of a run against any script.
-/

namespace Errand

open Dialogue

variable {config : Config} {task : Task} {options : RunOptions} {o o' : Outcome}
  {i i' : Bool} {t : List Exchange} {r : Except RunError Outcome}

-- ---------------------------------------------------------------------------
-- What is meant
-- ---------------------------------------------------------------------------

/-- The question that files an issue. -/
def filing (settings : TrackerSettings) (issue : DiscoveredIssue) : Request :=
  .createIssue (buildRequest settings issue)

/-- The question that replies to somebody with what the agent reported. -/
def replying (settings : NotifySettings) (name : String) (result : AgentResult) : Request :=
  .send name (replyText settings.template result.success result.summary)

/--
What an agent's answer makes a run ask of the tracker, of the repository and of
the messenger, in three parts.
-/
structure InOrder (config : Config) (options : RunOptions) {q : AgentRequest}
    (a : Answer (.invoke q)) (filed merged sent : List Exchange) : Prop where
  /-- Without a result nobody else is asked, nor if the run is only tried out. -/
  idle : options.dryRun = true ∨ a.interrupted = true ∨ (∃ e, a.reply = .error e) →
    filed = [] ∧ merged = [] ∧ sent = []
  /-- The tracker is asked to file the first of the issues found, in their order. -/
  issues : ∀ result, a.reply = .ok result →
    ∃ n, requests filed = (result.discoveredIssues.take n).map (filing config.tracker)
  /-- It is asked to file all of them, unless the token is tripped. -/
  every : ∀ result, a.reply = .ok result → options.dryRun = false →
    (a.interrupted || tripped filed) = false →
      requests filed = result.discoveredIssues.map (filing config.tracker)
  /-- The second part is a matter of the repository alone. -/
  repository : AskedOf .repository merged
  /-- Only a completed success with modified files is merged. -/
  gate : merged ≠ [] → ∃ result, a.reply = .ok result ∧ result.success = true ∧
    result.status = .completed ∧ result.filesModified ≠ []
  /-- There is at most one reply, to a recipient that is not blank, with what was reported. -/
  reply : sent ≠ [] → ∃ result name, a.reply = .ok result ∧ options.recipient = some name ∧
    Text.isBlank name = false ∧ requests sent = [replying config.notify name result]

/-- The outcome of a run is the one that can be read off its trace. -/
structure Accounts (task : Task) (options : RunOptions) (t : List Exchange) (o : Outcome) :
    Prop where
  mode : o.mode = (agentRequest task options).mode
  result : ∃ a : Answer (.invoke (agentRequest task options)), ⟨_, a⟩ ∈ t ∧
    a.reply = .ok o.result
  dryRun : o.dryRun = options.dryRun
  /-- The ids that the tracker gave, in their order. -/
  created : o.createdIssues = t.filterMap Exchange.created?
  /-- The work is merged unless there was a conflict, if it was to be merged at all. -/
  merged : o.merged =
    if !options.dryRun && o.result.isIntegrable then some (!t.any Exchange.conflicts) else none
  notified : o.notified = t.any Exchange.delivers
  /-- Every refusal that a run absorbs is one warning. -/
  warnings : o.warnings = t.filterMap Exchange.warning?

-- ---------------------------------------------------------------------------
-- The tracker's part
-- ---------------------------------------------------------------------------

section Publishes

variable {settings : TrackerSettings} {p p' : Publication} {issues : List DiscoveredIssue}

theorem Publishes.requests_eq {r : Except RunError Publication}
    (h : Publishes settings i p issues t r i') :
    ∃ n, requests t = (issues.take n).map (filing settings) := by
  induction h with
  | done | interrupted => exact ⟨0, rfl⟩
  | filed others ih =>
    obtain ⟨n, hn⟩ := ih
    exact ⟨n + 1, congrArg (_ :: ·) hn⟩

/-- As long as the token is not tripped, the filing goes on. -/
theorem Publishes.every {r : Except RunError Publication}
    (h : Publishes settings i p issues t r i') (calm : (i || tripped t) = false) :
    requests t = issues.map (filing settings) := by
  induction h with
  | done => rfl
  | interrupted => cases calm
  | filed others ih => exact congrArg (_ :: ·) (ih calm)

/-- What the tracker answers to one question is on record afterwards. -/
theorem Publication.record_account {q : IssueRequest} (a : Answer (.createIssue q)) :
    (p.record q a.reply).created = p.created ++ [⟨_, a⟩].filterMap Exchange.created? ∧
      (p.record q a.reply).warnings = p.warnings ++ [⟨_, a⟩].filterMap Exchange.warning? := by
  obtain ⟨(e | _ | id), _⟩ := a <;>
    simp [Publication.record, Exchange.created?, Exchange.warning?]

/-- What is published is what was published before and what the tracker answered. -/
theorem Publishes.account (h : Publishes settings i p issues t (.ok p') i') :
    p'.created = p.created ++ t.filterMap Exchange.created? ∧
      p'.warnings = p.warnings ++ t.filterMap Exchange.warning? := by
  generalize hr : (Except.ok p' : Except RunError Publication) = r at h
  induction h with
  | done =>
    cases hr
    simp
  | interrupted => cases hr
  | @filed p issue rest a t r i' others ih =>
    obtain ⟨hCreated, hWarnings⟩ := ih hr
    obtain ⟨hId, hWarning⟩ := Publication.record_account (p := p) a
    rw [← List.singleton_append, List.filterMap_append, List.filterMap_append]
    rw [hCreated, hWarnings, hId, hWarning, List.append_assoc, List.append_assoc]
    exact ⟨rfl, rfl⟩

end Publishes

-- ---------------------------------------------------------------------------
-- The messenger's part
-- ---------------------------------------------------------------------------

section Concludes

variable {settings : NotifySettings} {recipient : Option String}

theorem Concludes.requests_eq (h : Concludes settings recipient o i t r i') (ht : t ≠ []) :
    ∃ name, recipient = some name ∧ Text.isBlank name = false ∧
      requests t = [replying settings name o.result] := by
  cases h with
  | interrupted | nobody none => exact absurd rfl ht
  | killed some trips | told some calm =>
    obtain ⟨hName, hBlank⟩ := Option.filter_eq_some_iff.mp some
    exact ⟨_, hName, by simpa using hBlank, rfl⟩

theorem Concludes.account (h : Concludes settings recipient o i t (.ok o') i') :
    o' = { o with notified := t.any Exchange.delivers } := by
  cases h with
  | nobody none => rfl
  | told some calm => simp [Exchange.delivers]

/-- Only an interrupt keeps a run from its reply. -/
theorem Concludes.error_token {e : RunError}
    (h : Concludes settings recipient o i t (.error e) i') : i' = true := by
  cases h with
  | interrupted | killed some trips => rfl

end Concludes

-- ---------------------------------------------------------------------------
-- The repository's part, and the reply
-- ---------------------------------------------------------------------------

/-- Only a completed success is merged. -/
theorem AgentResult.isIntegrable_iff {result : AgentResult} :
    result.isIntegrable = true ↔ result.success = true ∧ result.status = .completed := by
  simp [AgentResult.isIntegrable]

/-- An integration that asks something has modified files to integrate. -/
theorem Committer.files_ne_nil {settings : GitSettings} {c d : Committer} {description : String}
    {files : List String} {r : Except RunError Integration}
    (h : (integrate settings c description files).Leads t (r, d)) (ht : t ≠ []) : files ≠ [] := by
  rcases integrate_ends h with ⟨-, hNil, -, -⟩ | ⟨hFiles, -⟩
  · exact absurd hNil ht
  · exact hFiles

theorem Committer.integrate_account {settings : GitSettings} {c d : Committer}
    {description : String} {files : List String} {n : Integration}
    (h : (integrate settings c description files).Leads t (.ok n, d)) :
    n.warnings = t.filterMap Exchange.warning? ∧ n.merged = !t.any Exchange.conflicts := by
  rcases integrate_ends h with ⟨-, rfl, hr, -⟩ | ⟨-, hEnds⟩
  · cases hr
    exact ⟨rfl, rfl⟩
  · exact hEnds.account

/-- The merge and the reply in two parts. -/
theorem Integrates.parts (h : Integrates config task options o i t r i') :
    ∃ merged sent, t = merged ++ sent ∧ AskedOf .repository merged ∧
      (merged ≠ [] → o.result.success = true ∧ o.result.status = .completed ∧
        o.result.filesModified ≠ []) ∧
      (sent ≠ [] → ∃ name, options.recipient = some name ∧ Text.isBlank name = false ∧
        requests sent = [replying config.notify name o.result]) := by
  cases h with
  | skipped unfit concludes =>
    exact ⟨[], t, rfl, askedOf_nil, fun h => absurd rfl h, concludes.requests_eq⟩
  | failed fit merge =>
    refine ⟨t, [], (List.append_nil t).symm, Committer.integrate_askedOf merge, fun ht => ?_,
      fun h => absurd rfl h⟩
    obtain ⟨hSuccess, hStatus⟩ := AgentResult.isIntegrable_iff.mp fit
    exact ⟨hSuccess, hStatus, Committer.files_ne_nil merge ht⟩
  | @merged t u _ _ _ _ fit merge concludes =>
    refine ⟨t, u, rfl, Committer.integrate_askedOf merge, fun ht => ?_, concludes.requests_eq⟩
    obtain ⟨hSuccess, hStatus⟩ := AgentResult.isIntegrable_iff.mp fit
    exact ⟨hSuccess, hStatus, Committer.files_ne_nil merge ht⟩

/-- What the repository and the messenger answered is in the outcome, on top of what was. -/
theorem Integrates.account (h : Integrates config task options o i t (.ok o') i') :
    o' = { o with
      merged := if o.result.isIntegrable then some (!t.any Exchange.conflicts) else o.merged,
      warnings := o.warnings ++ t.filterMap Exchange.warning?,
      notified := t.any Exchange.delivers } ∧ t.filterMap Exchange.created? = [] := by
  cases h with
  | skipped unfit concludes =>
    have hAsked := concludes.askedOf
    rw [concludes.account, hAsked.warnings_eq_nil (.inr rfl), hAsked.created_eq_nil nofun]
    simp [unfit]
  | @merged t u n c _ _ fit merge concludes =>
    have hMerge := Committer.integrate_askedOf merge
    have hReply := concludes.askedOf
    obtain ⟨hWarnings, hMerged⟩ := Committer.integrate_account merge
    rw [concludes.account]
    simp [fit, hWarnings, hMerged, hReply.warnings_eq_nil (.inr rfl), hReply.not_conflicts nofun,
      hMerge.not_delivers nofun, hMerge.created_eq_nil nofun, hReply.created_eq_nil nofun]

-- ---------------------------------------------------------------------------
-- A whole run in order
-- ---------------------------------------------------------------------------

section InOrder

variable {q : AgentRequest} {a : Answer (.invoke q)} {result : AgentResult}
  {filed merged sent : List Exchange}

/-- Nothing asked of the others is in order if there is a reason for it. -/
theorem InOrder.nothing
    (h : options.dryRun = true ∨ a.interrupted = true ∨ (∃ e, a.reply = .error e)) :
    InOrder config options a [] [] [] where
  idle _ := ⟨rfl, rfl, rfl⟩
  issues _ _ := ⟨0, rfl⟩
  every result ok wet calm := by
    rcases h with dry | trips | ⟨e, error⟩
    · rw [dry] at wet
      cases wet
    · simp [trips] at calm
    · rw [error] at ok
      cases ok
  repository := askedOf_nil
  gate h := absurd rfl h
  reply h := absurd rfl h

/-- The parts of a run whose agent came to a result, put together. -/
theorem InOrder.of_parts {p : Publication} {r : Except RunError Publication}
    (ok : a.reply = .ok result) (calm : a.interrupted = false) (wet : options.dryRun = false)
    (filing : Publishes config.tracker false p result.discoveredIssues filed r i')
    (repository : AskedOf .repository merged)
    (gate : merged ≠ [] → result.success = true ∧ result.status = .completed ∧
      result.filesModified ≠ [])
    (reply : sent ≠ [] → ∃ name, options.recipient = some name ∧ Text.isBlank name = false ∧
      requests sent = [replying config.notify name result]) :
    InOrder config options a filed merged sent where
  idle h := by
    rcases h with dry | trips | ⟨e, error⟩
    · rw [wet] at dry
      cases dry
    · rw [calm] at trips
      cases trips
    · rw [ok] at error
      cases error
  issues result' ok' := by
    cases ok.symm.trans ok'
    exact filing.requests_eq
  every result' ok' _ hCalm := by
    cases ok.symm.trans ok'
    exact filing.every ((Bool.or_eq_false_iff.mp hCalm).2)
  repository := repository
  gate h := ⟨result, ok, gate h⟩
  reply h := by
    obtain ⟨name, hName⟩ := reply h
    exact ⟨result, name, ok, hName⟩

end InOrder

/-- **Every course of a run that begins untripped is in order.** -/
theorem Dispatches.inOrder (h : Dispatches config task options false t r i') :
    ∃ (a : Answer (.invoke (agentRequest task options))) (filed merged sent : List Exchange),
      t = ⟨_, a⟩ :: (filed ++ merged ++ sent) ∧ InOrder config options a filed merged sent := by
  cases h with
  | killed trips => exact ⟨_, [], [], [], rfl, .nothing (.inr (.inl trips))⟩
  | failed calm error => exact ⟨_, [], [], [], rfl, .nothing (.inr (.inr ⟨_, error⟩))⟩
  | @answered a result u _ _ calm ok follows =>
    cases follows with
    | dry dry => exact ⟨a, [], [], [], rfl, .nothing (.inl dry)⟩
    | stopped wet filing =>
      refine ⟨a, u, [], [], by rw [List.append_nil, List.append_nil], ?_⟩
      exact .of_parts ok calm wet filing askedOf_nil (absurd rfl) (absurd rfl)
    | @filed t v p j _ _ wet filing integrates =>
      obtain ⟨merged, sent, rfl, repository, gate, reply⟩ := integrates.parts
      refine ⟨a, t, merged, sent, by rw [List.append_assoc], ?_⟩
      exact .of_parts ok calm wet filing repository gate reply

/-- **The outcome of a run is accounted for by its trace.** -/
theorem Dispatches.accounts (h : Dispatches config task options i t (.ok o) i') :
    Accounts task options t o := by
  cases h with
  | @answered a result t _ _ calm ok follows =>
    have hAgent : AskedOf .agent [(⟨_, a⟩ : Exchange)] := by simp [AskedOf, Request.party]
    rw [← List.singleton_append]
    cases follows with
    | dry dry =>
      exact {
        mode := rfl
        result := ⟨a, List.mem_cons_self, ok⟩
        dryRun := rfl
        created := (hAgent.created_eq_nil (by decide)).symm
        merged := by simp [dry]
        notified := (hAgent.not_delivers (by decide)).symm
        warnings := (hAgent.warnings_eq_nil (.inl rfl)).symm }
    | @filed t u p j _ _ wet filing integrates =>
      have hTracker := filing.askedOf
      obtain ⟨hCreated, hWarnings⟩ := filing.account
      obtain ⟨rfl, hNoIds⟩ := integrates.account
      exact {
        mode := rfl
        result := ⟨a, List.mem_cons_self, ok⟩
        dryRun := rfl
        created := by
          rw [List.filterMap_append, List.filterMap_append, hAgent.created_eq_nil (by decide),
            hNoIds, List.append_nil]
          exact hCreated
        merged := by
          rw [List.any_append, List.any_append, hAgent.not_conflicts (by decide),
            hTracker.not_conflicts (by decide), wet]
          rfl
        notified := by
          rw [List.any_append, List.any_append, hAgent.not_delivers (by decide),
            hTracker.not_delivers (by decide)]
          rfl
        warnings := by
          rw [List.filterMap_append, List.filterMap_append, hAgent.warnings_eq_nil (.inl rfl),
            ← List.nil_append (List.filterMap _ t), ← hWarnings]
          rfl }

-- ---------------------------------------------------------------------------
-- What ends a run
-- ---------------------------------------------------------------------------

theorem Committer.integrate_halts {settings : GitSettings} {d : Committer} {description : String}
    {files : List String} {r : Except RunError Integration}
    (h : (integrate settings ⟨.clean, i⟩ description files).Leads t (r, d)) :
    Halts settings.integrationBranch t (∃ e, r = .error e) := by
  rcases integrate_ends h with ⟨-, rfl, -, -⟩ | ⟨-, hEnds⟩
  · exact halts_of_not_any rfl
  · exact hEnds.halts rfl

theorem Integrates.halts (h : Integrates config task options o i t r i') :
    Halts config.git.integrationBranch t (∃ e, r = .error e) := by
  cases h with
  | skipped unfit concludes =>
    exact halts_of_not_any (concludes.askedOf.not_aborts (.inr rfl))
  | failed fit merge =>
    intro before e after hSplit hAborts
    exact ⟨⟨_, rfl⟩, (Committer.integrate_halts merge before e after hSplit hAborts).2⟩
  | merged fit merge concludes =>
    have hMerge := (Committer.integrate_halts merge).not_any (by simp)
    exact (halts_of_not_any (concludes.askedOf.not_aborts (.inr rfl))).append_left hMerge

/-- **A refusal that ends a run** makes it fail and is followed by a compensation at most. -/
theorem Dispatches.halts (h : Dispatches config task options i t r i') :
    Halts config.git.integrationBranch t (∃ e, r = .error e) := by
  cases h with
  | never => exact halts_of_not_any rfl
  | killed trips => exact halts_cons ⟨_, rfl⟩ (.inl rfl) rfl
  | failed calm error => exact halts_cons ⟨_, rfl⟩ (.inl rfl) rfl
  | answered calm ok follows =>
    rw [← List.singleton_append]
    refine Halts.append_left ?_ (by simp [Exchange.aborts, ok, Except.toBool])
    cases follows with
    | dry dry => exact halts_of_not_any rfl
    | stopped wet filing => exact halts_of_not_any (filing.askedOf.not_aborts (.inl rfl))
    | filed wet filing integrates =>
      exact integrates.halts.append_left (filing.askedOf.not_aborts (.inl rfl))

theorem Integrates.cause {e : RunError} (h : Integrates config task options o i t (.error e) i') :
    (i' || t.any (Exchange.aborts config.git.integrationBranch)) = true := by
  cases h with
  | skipped unfit concludes | merged fit merge concludes => simp [concludes.error_token]
  | failed fit merge =>
    rcases Committer.integrate_ends merge with ⟨-, -, hOk, -⟩ | ⟨-, hEnds⟩
    · cases hOk
    · exact hEnds.cause

/-- **A run fails exactly if it was interrupted or a refusal ended it.** -/
theorem Dispatches.error_iff_cause (h : Dispatches config task options i t r i') :
    (∃ e, r = .error e) ↔
      (i || tripped t || t.any (Exchange.aborts config.git.integrationBranch)) = true := by
  rw [← h.watched.token]
  constructor
  · rintro ⟨e, rfl⟩
    cases h with
    | never => rfl
    | killed trips => rfl
    | failed calm error => simp [Exchange.aborts, error, Except.toBool]
    | answered calm ok follows =>
      cases follows with
      | stopped wet filing => simp [filing.error_eq]
      | filed wet filing integrates =>
        have hCause := integrates.cause
        rw [Bool.or_eq_true] at hCause
        rcases hCause with hToken | hAborts
        · simp [hToken]
        · simp [hAborts]
  · intro hCause
    rw [Bool.or_eq_true] at hCause
    rcases hCause with hToken | hAborts
    · cases h with
      | never | killed trips | failed calm error => exact ⟨_, rfl⟩
      | answered calm ok follows => exact ⟨_, follows.error_iff.mpr hToken⟩
    · exact h.halts.fails hAborts

-- ---------------------------------------------------------------------------
-- The theorem
-- ---------------------------------------------------------------------------

/--
**A run asks in order, and gives a full account**, whatever its collaborators
answer. With the token tripped beforehand it asks nothing. Else it asks its
agent, and then the others as far as `InOrder` says. The outcome of a run that
succeeds is the one that its trace shows. A run fails exactly if the token is
tripped or a refusal ends it; after such a refusal it only compensates, and
after a trip it only winds up.
-/
theorem dispatch_in_order {σ : Type} (script : Script σ) (config : Config) (task : Task)
    (options : RunOptions) (started : Bool) (s : σ) :
    let ran := (dispatch config task options started).run script s
    let trace := ran.2.1
    let integration := config.git.integrationBranch
    (started = true → trace = []) ∧
      (started = false →
        ∃ (a : Answer (.invoke (agentRequest task options))) (filed merged sent : List Exchange),
          trace = ⟨_, a⟩ :: (filed ++ merged ++ sent) ∧
            InOrder config options a filed merged sent) ∧
      (∀ o, ran.1.1 = .ok o → Accounts task options trace o) ∧
      ((∃ e, ran.1.1 = .error e) ↔
        (started || tripped trace || trace.any (Exchange.aborts integration)) = true) ∧
      ∀ before e after, trace = before ++ e :: after →
        (e.aborts integration = true → Compensates e after) ∧
          (e.trips = true → WindsUp integration before after) := by
  intro ran trace integration
  have hRan : Dispatches config task options started trace ran.1.1 ran.1.2 :=
    dispatch_leads (run_leads script (dispatch config task options started) s)
  refine ⟨hRan.watched.silent, fun hStarted => ?_, fun o ho => ?_, hRan.error_iff_cause, ?_⟩
  · subst hStarted
    exact hRan.inOrder
  · rw [ho] at hRan
    exact hRan.accounts
  · intro before e after hSplit
    refine ⟨fun hAborts => (hRan.halts before e after hSplit hAborts).2, fun hTrips => ?_⟩
    exact hRan.watched.quiet before e after hSplit hTrips

/-- Two issues, of which the tracker refuses the first, and a merge that ends in a conflict;
and then a merge that fails. -/
theorem dispatch_in_order_merge :
    let result : AgentResult := { AgentResult.diligent with discoveredIssues := [{}, {}] }
    let s : Rehearsal :=
      { agentResult := .ok result,
        issues := [⟨false, some (.of "down"), none⟩, ⟨false, none, some "vc-7"⟩] }
    let d := dispatch {} (.issue "vc-1") {} false
    let conflict := d.run Rehearsal.answer
      { s with merges := [⟨false, none, .conflict "README.md"⟩] }
    let failure := d.run Rehearsal.answer
      { s with merges := [⟨false, some (.of "locked"), .merged⟩] }
    (∃ o, conflict.1.1 = .ok o ∧ Accounts (.issue "vc-1") {} conflict.2.1 o ∧
      o.createdIssues = ["vc-7"] ∧ o.merged = some false ∧ o.warnings.length = 2) ∧
    (∃ (a : Answer (.invoke (agentRequest (.issue "vc-1") {}))) (filed merged sent : _),
      conflict.2.1 = ⟨_, a⟩ :: (filed ++ merged ++ sent) ∧
        InOrder {} {} a filed merged sent) ∧
    ∃ before e after, failure.2.1 = before ++ e :: after ∧ e.aborts "main" = true ∧
      Compensates e after ∧ requests after = [.abortMerge, .checkout "work"] := by
  intro result s d conflict failure
  obtain ⟨-, hOrder, hAccounts, -⟩ := dispatch_in_order Rehearsal.answer {} (.issue "vc-1") {} false
    { s with merges := [⟨false, none, .conflict "README.md"⟩] }
  obtain ⟨-, -, -, -, hHalts⟩ := dispatch_in_order Rehearsal.answer {} (.issue "vc-1") {} false
    { s with merges := [⟨false, some (.of "locked"), .merged⟩] }
  refine ⟨⟨_, rfl, hAccounts _ rfl, rfl, rfl, rfl⟩, hOrder rfl, ?_⟩
  refine ⟨failure.2.1.take 7, _, failure.2.1.drop 8, rfl, rfl, ?_, rfl⟩
  exact (hHalts (failure.2.1.take 7) _ (failure.2.1.drop 8) rfl).1 rfl

end Errand
