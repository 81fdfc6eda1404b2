import Errand.Proofs.Run.Order

/-!
# Errand — what cannot influence what

A run absorbs what its tracker and its messenger refuse, and a conflict or a
failed push. What is absorbed must not reach further than its own place in the
outcome. So two runs are compared here that differ in the answers of one party
only, with the token tripped in neither: all other parties are asked the same,
and the outcomes agree but for what that party answered.

* `AlikeBut`          — the parties answer alike in two runs, but for one of them.
* `Publishes.unique`, `Concludes.unique` — the tracker's and the messenger's part, compared.
* `Integrates.unique` — the repository's part, up to the reply.
* `dispatch_influence` — the comparison for each of the parties, and for a run only tried out.
-/

namespace Errand

open Dialogue

variable {config : Config} {task : Task} {options : RunOptions} {o o' o₁ o₂ o₁' o₂' : Outcome}
  {i i₁ i₂ j₁ j₂ : Bool} {t t₁ t₂ : List Exchange} {r r₁ r₂ : Except RunError Outcome}

/-- In two traces every party answers alike, but for this one. -/
def AlikeBut (p : Party) (t u : List Exchange) : Prop :=
  ∀ q, q ≠ p → Alike (heard q t) (heard q u)

/-- A warning that the tracker did not take an issue. -/
def Warning.isOfTracker : Warning → Bool
  | .issueCreationFailed _ _ => true
  | .mergeConflict _ _ | .pushFailed _ _ | .branchNotRestored _ _ => false

/-- The outcomes agree but for the issues filed, and the warnings of those that were not. -/
structure Outcome.AgreeButIssues (o₁ o₂ : Outcome) : Prop where
  mode : o₁.mode = o₂.mode
  result : o₁.result = o₂.result
  merged : o₁.merged = o₂.merged
  notified : o₁.notified = o₂.notified
  warnings : o₁.warnings.filter (fun w => !w.isOfTracker) =
    o₂.warnings.filter (fun w => !w.isOfTracker)

/-- The outcomes agree but for the merge and the warnings. -/
structure Outcome.AgreeButMerge (o₁ o₂ : Outcome) : Prop where
  mode : o₁.mode = o₂.mode
  result : o₁.result = o₂.result
  succeeded : o₁.succeeded = o₂.succeeded
  created : o₁.createdIssues = o₂.createdIssues
  notified : o₁.notified = o₂.notified

/-- Two runs end with the same error, or with outcomes that are related. -/
inductive EndAlike (R : Outcome → Outcome → Prop) :
    Except RunError Outcome → Except RunError Outcome → Prop
  | error (e : RunError) : EndAlike R (.error e) (.error e)
  | ok {o₁ o₂ : Outcome} (h : R o₁ o₂) : EndAlike R (.ok o₁) (.ok o₂)

/-- Asked the same questions, those who answer alike leave the same trace. -/
theorem Dialogue.Alike.eq_of_requests_eq (h : Alike t₁ t₂) (same : requests t₁ = requests t₂) :
    t₁ = t₂ := by
  induction h with
  | nil_left => exact (List.map_eq_nil_iff.mp same.symm).symm
  | nil_right => exact List.map_eq_nil_iff.mp same
  | same rest ih => rw [ih (List.cons.inj same).2]
  | apart h => exact absurd (List.cons.inj same).1 h

-- ---------------------------------------------------------------------------
-- The tracker's part in two runs
-- ---------------------------------------------------------------------------

section Publishes

variable {settings : TrackerSettings} {p p' : Publication} {issues : List DiscoveredIssue}

theorem Publishes.unique {r₁ r₂ : Except RunError Publication}
    (h₁ : Publishes settings i p issues t₁ r₁ i₁) (h₂ : Publishes settings i p issues t₂ r₂ i₂)
    (alike : Alike t₁ t₂) : t₁ = t₂ ∧ r₁ = r₂ := by
  induction h₁ generalizing t₂ with
  | done =>
    cases h₂
    exact ⟨rfl, rfl⟩
  | interrupted =>
    cases h₂
    exact ⟨rfl, rfl⟩
  | filed others ih =>
    cases h₂ with
    | filed others' =>
      obtain ⟨rfl, hRest⟩ := alike.cons_inv
      obtain ⟨rfl, rfl⟩ := ih others' hRest
      exact ⟨rfl, rfl⟩

/-- All warnings of the filing are the tracker's. -/
theorem Publishes.warnings_isOfTracker (h : Publishes settings i {} issues t (.ok p') i') :
    p'.warnings.filter (fun w => !w.isOfTracker) = [] := by
  rw [h.account.2, List.filter_eq_nil_iff]
  intro w hw
  obtain ⟨⟨q, a⟩, he, hWarning⟩ := List.mem_filterMap.mp (by simpa using hw)
  have hParty : q.party = .tracker := h.askedOf _ he
  cases q with
  | createIssue q =>
    simp only [Exchange.warning?] at hWarning
    split at hWarning
    · cases hWarning
      simp [Warning.isOfTracker]
    · cases hWarning
  | _ => cases hParty

end Publishes

-- ---------------------------------------------------------------------------
-- The messenger's part in two runs
-- ---------------------------------------------------------------------------

section Concludes

variable {settings : NotifySettings} {recipient : Option String}

/-- A reply that the interrupt does not kill ends the run well. -/
theorem Concludes.ok (h : Concludes settings recipient o i t r false) : ∃ o', r = .ok o' := by
  cases h with
  | nobody none | told some calm => exact ⟨_, rfl⟩

/-- Two runs that reply on the same result send the same text to the same recipient. -/
theorem Concludes.requests_unique (h₁ : Concludes settings recipient o₁ i₁ t₁ (.ok o₁') j₁)
    (h₂ : Concludes settings recipient o₂ i₂ t₂ (.ok o₂') j₂) (same : o₁.result = o₂.result) :
    requests t₁ = requests t₂ := by
  cases h₁ with
  | nobody none =>
    cases h₂ with
    | nobody none' => rfl
    | told some calm => simp [none] at some
  | told some calm =>
    cases h₂ with
    | nobody none => simp [none] at some
    | told some' calm' =>
      cases some.symm.trans some'
      simp [requests, same]

end Concludes

-- ---------------------------------------------------------------------------
-- The repository's part in two runs
-- ---------------------------------------------------------------------------

/--
**With the same answers of the repository, two runs merge alike.** They may have
absorbed different refusals before, so their outcomes so far may differ, but not
the agent's result. Both fail in the merge, or both come to the reply with the
same addition `f` to the outcome so far.
-/
theorem Integrates.unique (h₁ : Integrates config task options o₁ i t₁ r₁ j₁)
    (h₂ : Integrates config task options o₂ i t₂ r₂ j₂) (same : o₁.result = o₂.result)
    (alike : Alike (heard .repository t₁) (heard .repository t₂)) :
    (t₁ = t₂ ∧ ∃ e, r₁ = .error e ∧ r₂ = .error e) ∨
      ∃ merged sent₁ sent₂ j, ∃ f : Outcome → Outcome,
        t₁ = merged ++ sent₁ ∧ t₂ = merged ++ sent₂ ∧ (∀ o, (f o).result = o.result) ∧
          Concludes config.notify options.recipient (f o₁) j sent₁ r₁ j₁ ∧
          Concludes config.notify options.recipient (f o₂) j sent₂ r₂ j₂ := by
  cases h₁ with
  | skipped unfit concludes =>
    cases h₂ with
    | skipped unfit' concludes' =>
      exact .inr ⟨[], t₁, t₂, i, id, rfl, rfl, fun _ => rfl, concludes, concludes'⟩
    | failed fit | merged fit => simp [← same, unfit] at fit
  | failed fit merge =>
    have hAsked := Committer.integrate_askedOf merge
    rw [same] at merge
    cases h₂ with
    | skipped unfit => simp [← same, fit] at unfit
    | failed fit' merge' =>
      have hAsked' := Committer.integrate_askedOf merge'
      rw [hAsked.heard_self, hAsked'.heard_self, ← List.append_nil t₂] at alike
      obtain ⟨rfl, hValue⟩ := leads_unique_of_askedOf merge merge' hAsked hAsked' alike
      cases hValue
      exact .inl ⟨rfl, _, rfl, rfl⟩
    | merged fit' merge' concludes' =>
      have hAsked' := Committer.integrate_askedOf merge'
      rw [hAsked.heard_self, heard_append, hAsked'.heard_self] at alike
      obtain ⟨-, hValue⟩ := leads_unique_of_askedOf merge merge' hAsked hAsked' alike
      cases hValue
  | @merged t u n c _ _ fit merge concludes =>
    have hAsked := Committer.integrate_askedOf merge
    rw [same] at merge
    cases h₂ with
    | skipped unfit => simp [← same, fit] at unfit
    | failed fit' merge' =>
      have hAsked' := Committer.integrate_askedOf merge'
      rw [hAsked'.heard_self, heard_append, hAsked.heard_self] at alike
      obtain ⟨-, hValue⟩ := leads_unique_of_askedOf merge' merge hAsked' hAsked alike.symm
      cases hValue
    | @merged t' u' _ _ _ _ fit' merge' concludes' =>
      have hAsked' := Committer.integrate_askedOf merge'
      have hReply := concludes.askedOf.heard_other (q := .repository) nofun
      have hReply' := concludes'.askedOf.heard_other (q := .repository) nofun
      rw [heard_append, heard_append, hAsked.heard_self, hAsked'.heard_self, hReply,
        List.append_nil] at alike
      obtain ⟨rfl, hValue⟩ := leads_unique_of_askedOf merge merge' hAsked hAsked' alike
      cases hValue
      exact .inr ⟨t, u, u', c.interrupted,
        fun o => { o with merged := some n.merged, warnings := o.warnings ++ n.warnings },
        rfl, rfl, fun _ => rfl, concludes, concludes'⟩

-- ---------------------------------------------------------------------------
-- Everything after the agent in two runs
-- ---------------------------------------------------------------------------

/-- The outcome of a run that has only come to its agent's result. -/
def Outcome.begun (task : Task) (options : RunOptions) (result : AgentResult) : Outcome :=
  { mode := (agentRequest task options).mode, result := result, dryRun := options.dryRun }

/-- Nothing trips the token of a part that ends without. -/
theorem Integrates.token_eq_false (h : Integrates config task options o i t r false) :
    i = false := by
  have hToken := h.watched.token
  simpa using (Bool.or_eq_false_iff.mp hToken.symm).1

/-- An uninterrupted run that is not only tried out files the issues and goes on to the merge. -/
theorem Follows.wet (h : Follows config task options o false t r false)
    (wet : options.dryRun = false) :
    ∃ filed u p, t = filed ++ u ∧
      Publishes config.tracker false {} o.result.discoveredIssues filed (.ok p) false ∧
      Integrates config task options { o with createdIssues := p.created, warnings := p.warnings }
        false u r false := by
  cases h with
  | dry dry =>
    rw [wet] at dry
    cases dry
  | stopped _ filing => cases filing.error_eq.2
  | @filed t u p j _ _ _ filing integrates =>
    obtain rfl := integrates.token_eq_false
    exact ⟨t, u, p, rfl, filing, integrates⟩

theorem Follows.of_dry (h : Follows config task options o false t r false)
    (dry : options.dryRun = true) : t = [] ∧ r = .ok o := by
  cases h with
  | dry _ => exact ⟨rfl, rfl⟩
  | stopped wet | filed wet =>
    rw [dry] at wet
    cases wet

/-- A run that ends well comes to a reply on its agent's result. -/
theorem Integrates.concludes (h : Integrates config task options o i t (.ok o') i') :
    ∃ merged sent p j, t = merged ++ sent ∧ AskedOf .repository merged ∧ p.result = o.result ∧
      Concludes config.notify options.recipient p j sent (.ok o') i' := by
  cases h with
  | skipped unfit concludes => exact ⟨[], t, o, i, rfl, askedOf_nil, rfl, concludes⟩
  | @merged t u n c _ _ fit merge concludes =>
    let p := { o with merged := some n.merged, warnings := o.warnings ++ n.warnings }
    exact ⟨t, u, p, c.interrupted, rfl, Committer.integrate_askedOf merge, rfl, concludes⟩

/-- **What the tracker answers reaches neither the repository nor the messenger.** -/
theorem Follows.but_tracker (h₁ : Follows config task options o false t₁ r₁ false)
    (h₂ : Follows config task options o false t₂ r₂ false)
    (repository : Alike (heard .repository t₁) (heard .repository t₂))
    (messenger : Alike (heard .messenger t₁) (heard .messenger t₂)) :
    heard .repository t₁ = heard .repository t₂ ∧ heard .messenger t₁ = heard .messenger t₂ ∧
      EndAlike Outcome.AgreeButIssues r₁ r₂ := by
  cases dry : options.dryRun with
  | true =>
    obtain ⟨rfl, rfl⟩ := h₁.of_dry dry
    obtain ⟨rfl, rfl⟩ := h₂.of_dry dry
    exact ⟨rfl, rfl, .ok ⟨rfl, rfl, rfl, rfl, rfl⟩⟩
  | false =>
    obtain ⟨filed₁, u₁, p₁, rfl, filing₁, integrates₁⟩ := h₁.wet dry
    obtain ⟨filed₂, u₂, p₂, rfl, filing₂, integrates₂⟩ := h₂.wet dry
    have hHeard₁ {q : Party} (hq : q ≠ .tracker) := filing₁.askedOf.heard_append_other (u := u₁) hq
    have hHeard₂ {q : Party} (hq : q ≠ .tracker) := filing₂.askedOf.heard_append_other (u := u₂) hq
    rw [hHeard₁ (by decide), hHeard₂ (by decide)] at repository messenger ⊢
    rw [hHeard₁ (by decide), hHeard₂ (by decide)]
    rcases integrates₁.unique integrates₂ rfl repository with
      ⟨rfl, e, rfl, rfl⟩ | ⟨merged, sent₁, sent₂, j, f, rfl, rfl, hf, concludes₁, concludes₂⟩
    · exact ⟨rfl, rfl, .error e⟩
    · obtain ⟨o₁, rfl⟩ := concludes₁.ok
      obtain ⟨o₂, rfl⟩ := concludes₂.ok
      rw [heard_append, heard_append, concludes₁.askedOf.heard_self,
        concludes₂.askedOf.heard_self] at messenger
      have hSent := concludes₁.requests_unique concludes₂ (by rw [hf, hf])
      obtain rfl := messenger.of_append_same.eq_of_requests_eq hSent
      obtain ⟨rfl, -⟩ := integrates₁.account
      obtain ⟨rfl, -⟩ := integrates₂.account
      refine ⟨rfl, rfl, .ok ⟨rfl, rfl, rfl, rfl, ?_⟩⟩
      rw [List.filter_append, List.filter_append, filing₁.warnings_isOfTracker,
        filing₂.warnings_isOfTracker]

/-- **What the repository answers reaches neither the tracker nor the messenger**, in runs
that end well. -/
theorem Follows.but_repository (h₁ : Follows config task options o false t₁ (.ok o₁) false)
    (h₂ : Follows config task options o false t₂ (.ok o₂) false)
    (tracker : Alike (heard .tracker t₁) (heard .tracker t₂))
    (messenger : Alike (heard .messenger t₁) (heard .messenger t₂)) :
    heard .tracker t₁ = heard .tracker t₂ ∧ heard .messenger t₁ = heard .messenger t₂ ∧
      o₁.AgreeButMerge o₂ := by
  cases dry : options.dryRun with
  | true =>
    obtain ⟨rfl, hOk₁⟩ := h₁.of_dry dry
    obtain ⟨rfl, hOk₂⟩ := h₂.of_dry dry
    cases hOk₁
    cases hOk₂
    exact ⟨rfl, rfl, rfl, rfl, rfl, rfl, rfl⟩
  | false =>
    obtain ⟨filed₁, u₁, p₁, rfl, filing₁, integrates₁⟩ := h₁.wet dry
    obtain ⟨filed₂, u₂, p₂, rfl, filing₂, integrates₂⟩ := h₂.wet dry
    rw [heard_append, heard_append, filing₁.askedOf.heard_self,
      filing₂.askedOf.heard_self] at tracker
    obtain ⟨rfl, hFiled⟩ := filing₁.unique filing₂ tracker.of_append
    cases hFiled
    obtain ⟨merged₁, sent₁, q₁, j₁, rfl, hMerged₁, hResult₁, concludes₁⟩ := integrates₁.concludes
    obtain ⟨merged₂, sent₂, q₂, j₂, rfl, hMerged₂, hResult₂, concludes₂⟩ := integrates₂.concludes
    rw [filing₁.askedOf.heard_append_other (by decide),
      filing₁.askedOf.heard_append_other (by decide),
      hMerged₁.heard_append_other (by decide), hMerged₂.heard_append_other (by decide),
      concludes₁.askedOf.heard_self, concludes₂.askedOf.heard_self] at messenger
    have hSent := concludes₁.requests_unique concludes₂ (hResult₁.trans hResult₂.symm)
    obtain rfl := messenger.eq_of_requests_eq hSent
    obtain ⟨rfl, -⟩ := integrates₁.account
    obtain ⟨rfl, -⟩ := integrates₂.account
    refine ⟨?_, ?_, rfl, rfl, rfl, rfl, ?_⟩
    · simp [hMerged₁.heard_other, hMerged₂.heard_other]
    · simp [hMerged₁.heard_other, hMerged₂.heard_other]
    · simp [hMerged₁.not_delivers, hMerged₂.not_delivers]

/-- **What the messenger answers reaches nobody**, and only its own flag in the outcome. -/
theorem Follows.but_messenger (h₁ : Follows config task options o false t₁ r₁ false)
    (h₂ : Follows config task options o false t₂ r₂ false)
    (tracker : Alike (heard .tracker t₁) (heard .tracker t₂))
    (repository : Alike (heard .repository t₁) (heard .repository t₂)) :
    EndAlike (fun o o' => o' = { o with notified := o'.notified }) r₁ r₂ := by
  cases dry : options.dryRun with
  | true =>
    obtain ⟨rfl, rfl⟩ := h₁.of_dry dry
    obtain ⟨rfl, rfl⟩ := h₂.of_dry dry
    exact .ok rfl
  | false =>
    obtain ⟨filed₁, u₁, p₁, rfl, filing₁, integrates₁⟩ := h₁.wet dry
    obtain ⟨filed₂, u₂, p₂, rfl, filing₂, integrates₂⟩ := h₂.wet dry
    rw [heard_append, heard_append, filing₁.askedOf.heard_self,
      filing₂.askedOf.heard_self] at tracker
    obtain ⟨rfl, hFiled⟩ := filing₁.unique filing₂ tracker.of_append
    cases hFiled
    rw [filing₁.askedOf.heard_append_other (by decide),
      filing₁.askedOf.heard_append_other (by decide)] at repository
    rcases integrates₁.unique integrates₂ rfl repository with
      ⟨-, e, rfl, rfl⟩ | ⟨merged, sent₁, sent₂, j, f, -, -, -, concludes₁, concludes₂⟩
    · exact .error e
    · obtain ⟨o₁, rfl⟩ := concludes₁.ok
      obtain ⟨o₂, rfl⟩ := concludes₂.ok
      refine .ok ?_
      rw [concludes₁.account, concludes₂.account]

/-- What follows the agent changes neither the mode nor the agent's result. -/
theorem Follows.keeps (h : Follows config task options o i t (.ok o') i') :
    o'.mode = o.mode ∧ o'.result = o.result := by
  cases h with
  | dry dry => exact ⟨rfl, rfl⟩
  | filed wet filing integrates =>
    obtain ⟨rfl, -⟩ := integrates.account
    exact ⟨rfl, rfl⟩

-- ---------------------------------------------------------------------------
-- Two whole runs
-- ---------------------------------------------------------------------------

/--
Two uninterrupted runs with the same agent, of which one may be only tried out:
both fail with the agent, or both go on from its result.
-/
theorem Dispatches.begin {options₁ options₂ : RunOptions}
    (h₁ : Dispatches config task options₁ false t₁ r₁ false)
    (h₂ : Dispatches config task options₂ false t₂ r₂ false)
    (mode : options₁.choice = options₂.choice)
    (agent : Alike (heard .agent t₁) (heard .agent t₂)) :
    (t₁ = t₂ ∧ ∃ e, r₁ = .error e ∧ r₂ = .error e) ∨
      ∃ (e : Exchange) (result : AgentResult) (u₁ u₂ : List Exchange),
        t₁ = e :: u₁ ∧ t₂ = e :: u₂ ∧ e.request.party = .agent ∧
        Follows config task options₁ (.begun task options₁ result) false u₁ r₁ false ∧
        Follows config task options₂ (.begun task options₂ result) false u₂ r₂ false := by
  -- the two ask the agent the same, so their answers have one type
  obtain ⟨choice, recipient₁, dry₁⟩ := options₁
  obtain ⟨choice', recipient₂, dry₂⟩ := options₂
  obtain rfl : choice = choice' := mode
  cases h₁ with
  | failed calm error =>
    cases h₂ with
    | failed calm' error' =>
      obtain ⟨rfl, -⟩ := agent.cons_inv
      cases error.symm.trans error'
      exact .inl ⟨rfl, _, rfl, rfl⟩
    | answered calm' ok follows =>
      obtain ⟨rfl, -⟩ := agent.cons_inv
      cases error.symm.trans ok
  | answered calm ok follows =>
    cases h₂ with
    | failed calm' error =>
      obtain ⟨rfl, -⟩ := agent.cons_inv
      cases error.symm.trans ok
    | answered calm' ok' follows' =>
      obtain ⟨rfl, -⟩ := agent.cons_inv
      cases ok.symm.trans ok'
      exact .inr ⟨_, _, _, _, rfl, rfl, rfl, follows, follows'⟩

/-- What the agent was asked, nobody else hears. -/
theorem heard_of_agent {e : Exchange} {p : Party} (h : e.request.party = .agent)
    (hp : p ≠ .agent) : heard p (e :: t) = heard p t :=
  heard_cons_other fun hq => hp (hq.symm.trans h)

theorem Dispatches.but_tracker (h₁ : Dispatches config task options false t₁ r₁ false)
    (h₂ : Dispatches config task options false t₂ r₂ false) (alike : AlikeBut .tracker t₁ t₂) :
    heard .repository t₁ = heard .repository t₂ ∧ heard .messenger t₁ = heard .messenger t₂ ∧
      EndAlike Outcome.AgreeButIssues r₁ r₂ := by
  have repository := alike .repository (by decide)
  have messenger := alike .messenger (by decide)
  rcases h₁.begin h₂ rfl (alike .agent (by decide)) with
    ⟨rfl, e, rfl, rfl⟩ | ⟨e, result, u₁, u₂, rfl, rfl, hAgent, follows₁, follows₂⟩
  · exact ⟨rfl, rfl, .error e⟩
  · have hHeard {p : Party} (hp : p ≠ .agent) (u : List Exchange) :=
      heard_of_agent (t := u) hAgent hp
    rw [hHeard (by decide), hHeard (by decide)] at repository messenger ⊢
    rw [hHeard (by decide), hHeard (by decide)]
    exact follows₁.but_tracker follows₂ repository messenger

theorem Dispatches.but_repository (h₁ : Dispatches config task options false t₁ (.ok o₁) false)
    (h₂ : Dispatches config task options false t₂ (.ok o₂) false)
    (alike : AlikeBut .repository t₁ t₂) :
    heard .tracker t₁ = heard .tracker t₂ ∧ heard .messenger t₁ = heard .messenger t₂ ∧
      o₁.AgreeButMerge o₂ := by
  have tracker := alike .tracker (by decide)
  have messenger := alike .messenger (by decide)
  rcases h₁.begin h₂ rfl (alike .agent (by decide)) with
    ⟨-, e, hError, -⟩ | ⟨e, result, u₁, u₂, rfl, rfl, hAgent, follows₁, follows₂⟩
  · cases hError
  · have hHeard {p : Party} (hp : p ≠ .agent) (u : List Exchange) :=
      heard_of_agent (t := u) hAgent hp
    rw [hHeard (by decide), hHeard (by decide)] at tracker messenger ⊢
    rw [hHeard (by decide), hHeard (by decide)]
    exact follows₁.but_repository follows₂ tracker messenger

theorem Dispatches.but_messenger (h₁ : Dispatches config task options false t₁ r₁ false)
    (h₂ : Dispatches config task options false t₂ r₂ false) (alike : AlikeBut .messenger t₁ t₂) :
    EndAlike (fun o o' => o' = { o with notified := o'.notified }) r₁ r₂ := by
  have tracker := alike .tracker (by decide)
  have repository := alike .repository (by decide)
  rcases h₁.begin h₂ rfl (alike .agent (by decide)) with
    ⟨-, e, rfl, rfl⟩ | ⟨e, result, u₁, u₂, rfl, rfl, hAgent, follows₁, follows₂⟩
  · exact .error e
  · rw [heard_of_agent hAgent (by decide), heard_of_agent hAgent (by decide)]
      at tracker repository
    exact follows₁.but_messenger follows₂ tracker repository

/-- A run that is only tried out ends as the real one, as far as the agent is concerned. -/
theorem Dispatches.trial {options₁ options₂ : RunOptions}
    (h₁ : Dispatches config task options₁ false t₁ r₁ false)
    (h₂ : Dispatches config task options₂ false t₂ r₂ false)
    (mode : options₁.choice = options₂.choice) (dry : options₁.dryRun = true)
    (agent : Alike (heard .agent t₁) (heard .agent t₂)) :
    (∀ e, r₁ = .error e → r₂ = .error e) ∧
      ∀ o, r₂ = .ok o → ∃ o', r₁ = .ok o' ∧ o'.mode = o.mode ∧ o'.result = o.result ∧
        o'.succeeded = o.succeeded := by
  rcases h₁.begin h₂ mode agent with
    ⟨-, e, rfl, rfl⟩ | ⟨e, result, u₁, u₂, -, -, -, follows₁, follows₂⟩
  · refine ⟨fun _ h => h, fun o hOk => ?_⟩
    cases hOk
  · obtain ⟨-, rfl⟩ := follows₁.of_dry dry
    refine ⟨fun e hError => (by cases hError), ?_⟩
    rintro o rfl
    obtain ⟨hMode, hResult⟩ := follows₂.keeps
    refine ⟨_, rfl, ?_, hResult.symm, congrArg AgentResult.success hResult.symm⟩
    rw [hMode]
    exact congrArg (fun choice => Mode.resolve choice task.wording) mode

/-- A run that is never interrupted, as a course that begins and ends untripped. -/
theorem run_dispatches {σ : Type} (script : Script σ) (config : Config) (task : Task)
    (options : RunOptions) (s : σ)
    (calm : tripped ((dispatch config task options false).run script s).2.1 = false) :
    Dispatches config task options false
      ((dispatch config task options false).run script s).2.1
      ((dispatch config task options false).run script s).1.1 false := by
  have hRan := dispatch_leads (run_leads script (dispatch config task options false) s)
  have hToken := hRan.watched.token
  rw [calm, Bool.or_false] at hToken
  rwa [hToken] at hRan

/--
**A party that is absorbed does not influence the others.** Take two runs of the
same task, with the token tripped in neither.

If all but the tracker answer alike, the repository and the messenger hear the
same, and the runs end with the same error or with outcomes that agree but for
the issues. If all but the repository answer alike and both runs end well, the
tracker and the messenger hear the same and the outcomes agree but for the
merge. If all but the messenger answer alike, the runs end with the same error
or with outcomes that differ in the flag of the reply at most.

And if one of two runs with the same agent is only tried out, its error is the
error of the other, and if the other ends well it does so too, on the same result.
-/
theorem dispatch_influence {σ τ : Type} (script₁ : Script σ) (script₂ : Script τ)
    (config : Config) (task : Task) (options : RunOptions) (s₁ : σ) (s₂ : τ) :
    (let ran₁ := (dispatch config task options false).run script₁ s₁
      let ran₂ := (dispatch config task options false).run script₂ s₂
      let t₁ := ran₁.2.1
      let t₂ := ran₂.2.1
      tripped t₁ = false → tripped t₂ = false →
        (AlikeBut .tracker t₁ t₂ →
          heard .repository t₁ = heard .repository t₂ ∧
            heard .messenger t₁ = heard .messenger t₂ ∧
            EndAlike Outcome.AgreeButIssues ran₁.1.1 ran₂.1.1) ∧
        (AlikeBut .repository t₁ t₂ →
          ∀ o₁ o₂, ran₁.1.1 = .ok o₁ → ran₂.1.1 = .ok o₂ →
            heard .tracker t₁ = heard .tracker t₂ ∧
              heard .messenger t₁ = heard .messenger t₂ ∧ o₁.AgreeButMerge o₂) ∧
        (AlikeBut .messenger t₁ t₂ →
          EndAlike (fun o o' => o' = { o with notified := o'.notified }) ran₁.1.1 ran₂.1.1)) ∧
    (let trial := (dispatch config task { options with dryRun := true } false).run script₁ s₁
      let real := (dispatch config task { options with dryRun := false } false).run script₂ s₂
      tripped trial.2.1 = false → tripped real.2.1 = false →
        Alike (heard .agent trial.2.1) (heard .agent real.2.1) →
        (∀ e, trial.1.1 = .error e → real.1.1 = .error e) ∧
        ∀ o, real.1.1 = .ok o → ∃ o', trial.1.1 = .ok o' ∧ o'.mode = o.mode ∧
          o'.result = o.result ∧ o'.succeeded = o.succeeded) := by
  constructor
  · intro ran₁ ran₂ t₁ t₂ calm₁ calm₂
    have h₁ := run_dispatches script₁ config task options s₁ calm₁
    have h₂ := run_dispatches script₂ config task options s₂ calm₂
    refine ⟨h₁.but_tracker h₂, fun alike o₁ o₂ hOk₁ hOk₂ => ?_, h₁.but_messenger h₂⟩
    rw [hOk₁] at h₁
    rw [hOk₂] at h₂
    exact h₁.but_repository h₂ alike
  · intro trial real calm₁ calm₂ agent
    have h₁ := run_dispatches script₁ config task { options with dryRun := true } s₁ calm₁
    have h₂ := run_dispatches script₂ config task { options with dryRun := false } s₂ calm₂
    exact h₁.trial h₂ rfl rfl agent

/-- A run with two issues and a reply, beside one whose tracker refuses an issue, one
whose merge ends in a conflict, one whose messenger refuses the reply, and a trial. -/
theorem dispatch_influence_refused :
    let s : Rehearsal :=
      { agentResult := .ok { AgentResult.diligent with discoveredIssues := [{}, {}] },
        issues := [⟨false, none, some "vc-7"⟩] }
    let refusal : Cue (Option String) := ⟨false, some (.of "down"), none⟩
    let options : RunOptions := { recipient := some "mayor" }
    let ran (options : RunOptions) (s : Rehearsal) :=
      ((dispatch {} (.issue "vc-1") options false).run Rehearsal.answer s).1.1
    EndAlike Outcome.AgreeButIssues (ran options s) (ran options { s with issues := [refusal] }) ∧
      (∃ o o', ran options s = .ok o ∧
        ran options { s with merges := [⟨false, none, .conflict "README.md"⟩] } = .ok o' ∧
        o.AgreeButMerge o' ∧ o.merged ≠ o'.merged) ∧
      EndAlike (fun o o' => o' = { o with notified := o'.notified }) (ran options s)
        (ran options { s with messages := [⟨false, some (.of "down"), ()⟩] }) ∧
      ∃ o o', ran options s = .ok o ∧ ran { options with dryRun := true } s = .ok o' ∧
        o'.result = o.result ∧ o.createdIssues ≠ o'.createdIssues := by
  intro s refusal options ran
  have influence (s' : Rehearsal) :=
    dispatch_influence Rehearsal.answer Rehearsal.answer {} (.issue "vc-1") options s s'
  obtain ⟨hTracker, -⟩ := (influence { s with issues := [refusal] }).1 rfl rfl
  obtain ⟨-, hRepository, -⟩ :=
    (influence { s with merges := [⟨false, none, .conflict "README.md"⟩] }).1 rfl rfl
  obtain ⟨-, -, hMessenger⟩ :=
    (influence { s with messages := [⟨false, some (.of "down"), ()⟩] }).1 rfl rfl
  obtain ⟨-, hTrial⟩ := (influence s).2 rfl rfl (.same .nil_left)
  refine ⟨(hTracker ?_).2.2, ⟨_, _, rfl, rfl, (hRepository ?_ _ _ rfl rfl).2.2, by decide⟩,
    hMessenger ?_, ?_⟩
  · rintro (_ | _ | _ | _) hq
    · exact .same .nil_left
    · exact absurd rfl hq
    · exact Alike.refl _
    · exact Alike.refl _
  · rintro (_ | _ | _ | _) hq
    · exact .same .nil_left
    · exact Alike.refl _
    · exact absurd rfl hq
    · exact Alike.refl _
  · rintro (_ | _ | _ | _) hq
    · exact .same .nil_left
    · exact Alike.refl _
    · exact Alike.refl _
    · exact absurd rfl hq
  · obtain ⟨o', ho', -, hResult, -⟩ := hTrial _ rfl
    cases ho'
    exact ⟨_, _, rfl, rfl, hResult, by decide⟩

end Errand
