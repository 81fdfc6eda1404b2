import Errand.Proofs.Integration.Interrupt
import Errand.Proofs.Run.Party

/-!
# Errand — the account that an integration gives

What an integration reports can be read off its trace. Every refusal that it
absorbs leaves one warning, in the order of the exchanges, and a conflict is
the only thing that keeps the work from counting as merged. A refusal that it
cannot absorb ends it, and then it only undoes what it began.

* `Exchange.warning?`, `Exchange.conflicts` — what an exchange leaves in a report.
* `Exchange.created?`, `Exchange.delivers`  — the same for the tracker and the messenger.
* `Exchange.aborts`, `Compensates`          — the refusals that end a run, and what may follow.
* `Committer.Ends.account`  — the report of an integration is that of its trace.
* `Committer.Ends.halts`    — after the refusal that ends it, an integration only compensates.
* `Committer.Ends.cause`    — an integration fails for a reason that its trace shows.
-/

namespace Errand

namespace Dialogue

-- ---------------------------------------------------------------------------
-- What an exchange leaves behind
-- ---------------------------------------------------------------------------

namespace Exchange

/-- The warning that a refusal leaves, if a run absorbs it. -/
def warning? : Exchange → Option Warning
  | ⟨.createIssue q, a⟩ =>
    match a.reply with
    | .error e => some (.issueCreationFailed q.title e.text)
    | .ok _ => none
  | ⟨.merge b, a⟩ =>
    match a.reply with
    | .ok (.conflict detail) => some (.mergeConflict b detail)
    | _ => none
  | ⟨.push _ b, a⟩ =>
    match a.reply with
    | .error e => some (.pushFailed b e.text)
    | .ok _ => none
  | ⟨.checkout b, a⟩ =>
    match a.reply with
    | .error e => some (.branchNotRestored b e.text)
    | .ok _ => none
  | _ => none

/-- The id of an issue that the tracker filed, if it gave one. -/
def created? : Exchange → Option String
  | ⟨.createIssue _, a⟩ =>
    match a.reply with
    | .ok id => id
    | .error _ => none
  | _ => none

/-- A merge ended in a conflict. -/
def conflicts : Exchange → Bool
  | ⟨.merge _, a⟩ =>
    match a.reply with
    | .ok (.conflict _) => true
    | _ => false
  | _ => false

/-- The messenger accepted the reply. -/
def delivers : Exchange → Bool
  | ⟨.send _ _, a⟩ => a.reply.toBool
  | _ => false

/--
A refusal that ends a run: the agent's, or that of a step on the way to the
merge. A checkout is such a step if it is that of the integration branch.
-/
def aborts (integration : String) : Exchange → Bool
  | ⟨.invoke _, a⟩ => !a.reply.toBool
  | ⟨.stageAll, a⟩ => !a.reply.toBool
  | ⟨.commit _, a⟩ => !a.reply.toBool
  | ⟨.currentBranch, a⟩ => !a.reply.toBool
  | ⟨.checkout b, a⟩ => b = integration && !a.reply.toBool
  | ⟨.merge _, a⟩ => !a.reply.toBool
  | _ => false

variable {integration : String} {e : Exchange}

theorem warning?_eq_none (h : e.request.party = .agent ∨ e.request.party = .messenger) :
    e.warning? = none := by
  obtain ⟨r, a⟩ := e
  cases r <;> simp [Request.party] at h <;> rfl

theorem created?_eq_none (h : e.request.party ≠ .tracker) : e.created? = none := by
  obtain ⟨r, a⟩ := e
  cases r <;> simp [Request.party] at h <;> rfl

theorem conflicts_eq_false (h : e.request.party ≠ .repository) : e.conflicts = false := by
  obtain ⟨r, a⟩ := e
  cases r <;> simp [Request.party] at h <;> rfl

theorem delivers_eq_false (h : e.request.party ≠ .messenger) : e.delivers = false := by
  obtain ⟨r, a⟩ := e
  cases r <;> simp [Request.party] at h <;> rfl

theorem aborts_eq_false (h : e.request.party = .tracker ∨ e.request.party = .messenger) :
    e.aborts integration = false := by
  obtain ⟨r, a⟩ := e
  cases r <;> simp [Request.party] at h <;> rfl

end Exchange

-- ---------------------------------------------------------------------------
-- What a party leaves behind
-- ---------------------------------------------------------------------------

section AskedOf

variable {p : Party} {t : List Exchange} {integration : String}

theorem AskedOf.warnings_eq_nil (h : AskedOf p t) (hp : p = .agent ∨ p = .messenger) :
    t.filterMap Exchange.warning? = [] :=
  List.filterMap_eq_nil_iff.mpr fun e he => Exchange.warning?_eq_none (by rwa [h e he])

theorem AskedOf.created_eq_nil (h : AskedOf p t) (hp : p ≠ .tracker) :
    t.filterMap Exchange.created? = [] :=
  List.filterMap_eq_nil_iff.mpr fun e he => Exchange.created?_eq_none (by rwa [h e he])

theorem AskedOf.not_conflicts (h : AskedOf p t) (hp : p ≠ .repository) :
    t.any Exchange.conflicts = false := by
  rw [List.any_eq_false]
  intro e he
  rw [Exchange.conflicts_eq_false (by rwa [h e he])]
  exact Bool.false_ne_true

theorem AskedOf.not_delivers (h : AskedOf p t) (hp : p ≠ .messenger) :
    t.any Exchange.delivers = false := by
  rw [List.any_eq_false]
  intro e he
  rw [Exchange.delivers_eq_false (by rwa [h e he])]
  exact Bool.false_ne_true

theorem AskedOf.not_aborts (h : AskedOf p t) (hp : p = .tracker ∨ p = .messenger) :
    t.any (Exchange.aborts integration) = false := by
  rw [List.any_eq_false]
  intro e he
  rw [Exchange.aborts_eq_false (by rwa [h e he])]
  exact Bool.false_ne_true

end AskedOf

-- ---------------------------------------------------------------------------
-- After a refusal that ends a run
-- ---------------------------------------------------------------------------

variable {integration : String} {e : Exchange} {t u : List Exchange} {failed : Prop}

/-- What may follow a refusal that ends a run: nothing, unless it was the merge that
failed. A merge is ended, and the branch that was to be merged is checked out again. -/
def Compensates (e : Exchange) (after : List Exchange) : Prop :=
  after = [] ∨ ∃ b, e.request = .merge b ∧ requests after = [.abortMerge, .checkout b]

/-- A refusal that ends a run makes it fail, and whatever comes after it compensates. -/
def Halts (integration : String) (t : List Exchange) (failed : Prop) : Prop :=
  ∀ before e after, t = before ++ e :: after → e.aborts integration = true →
    failed ∧ Compensates e after

/-- Without such a refusal there is nothing to show. -/
theorem halts_of_not_any (h : t.any (Exchange.aborts integration) = false) :
    Halts integration t failed := by
  rintro before e after rfl hAborts
  simp [hAborts] at h

/-- A trace that holds such a refusal fails. -/
theorem Halts.fails (h : Halts integration t failed)
    (ht : t.any (Exchange.aborts integration) = true) : failed := by
  obtain ⟨e, he, hAborts⟩ := List.any_eq_true.mp ht
  obtain ⟨before, after, hSplit⟩ := List.append_of_mem he
  exact (h before e after hSplit hAborts).1

/-- What does not fail holds no such refusal. -/
theorem Halts.not_any (h : Halts integration t failed) (hOk : ¬ failed) :
    t.any (Exchange.aborts integration) = false :=
  Bool.eq_false_iff.mpr fun ht => hOk (h.fails ht)

theorem Halts.append_left (hu : Halts integration u failed)
    (ht : t.any (Exchange.aborts integration) = false) : Halts integration (t ++ u) failed := by
  intro before e after hSplit hAborts
  rcases List.append_eq_append_iff.mp hSplit with ⟨rest, rfl, hRest⟩ | ⟨rest, rfl, hRest⟩
  · exact hu rest e after hRest hAborts
  · rcases List.cons_eq_append_iff.mp hRest with ⟨rfl, hx⟩ | ⟨tail, rfl, rfl⟩
    · exact hu [] e after hx hAborts
    · simp [hAborts] at ht

/-- An exchange that is followed by a compensation alone. -/
theorem halts_cons (hFailed : failed) (hComp : Compensates e u)
    (hu : u.any (Exchange.aborts integration) = false) : Halts integration (e :: u) failed := by
  intro before x after hSplit hAborts
  rcases List.cons_eq_append_iff.mp hSplit with ⟨rfl, hx⟩ | ⟨rest, rfl, rfl⟩
  · cases hx
    exact ⟨hFailed, hComp⟩
  · simp [hAborts] at hu

end Dialogue

namespace Committer

open Dialogue

variable {settings : GitSettings} {description b integration : String} {c d d₁ d' : Committer}
  {p : Checkpoint} {t u x : List Exchange} {w : Option Warning} {ws : List Warning}

-- ---------------------------------------------------------------------------
-- The report of an integration
-- ---------------------------------------------------------------------------

theorem Restores.account (h : Restores b c t w d) :
    w.toList = t.filterMap Exchange.warning? ∧ t.any Exchange.conflicts = false := by
  cases h with
  | back ok => simp [Exchange.warning?, Exchange.conflicts, ok]
  | stuck error => simp [Exchange.warning?, Exchange.conflicts, error]

theorem Pushes.account (h : Pushes settings c t ws d) :
    ws = t.filterMap Exchange.warning? ∧ t.any Exchange.conflicts = false := by
  cases h with
  | off h => simp
  | accepted h ok => simp [Exchange.warning?, Exchange.conflicts, ok]
  | refused h error => simp [Exchange.warning?, Exchange.conflicts, error]

/-- A checkpoint is reached without anything to report. -/
theorem Reaches.account (h : Reaches settings description c p t d) :
    t.filterMap Exchange.warning? = [] ∧ t.any Exchange.conflicts = false := by
  induction h with
  | start => exact ⟨rfl, rfl⟩
  | staged before go ok ih | committed before go ok named ih =>
    simp [ih, Exchange.warning?, Exchange.conflicts]
  | onIntegration before go apart ok ih | merged before go ok ih =>
    simp [ih, Exchange.warning?, Exchange.conflicts, ok]

/-- **The report of an integration is that of its trace.** -/
theorem Ends.account {n : Integration} (h : Ends settings description c t (.ok n) d) :
    n.warnings = t.filterMap Exchange.warning? ∧ n.merged = !t.any Exchange.conflicts := by
  cases h with
  | nothing reached go empty =>
    simp [reached.account, Exchange.warning?, Exchange.conflicts]
  | already reached go pushed =>
    simp [reached.account, ← pushed.account.1, pushed.account.2]
  | conflict reached go conflict restored =>
    simp [reached.account, restored.account, Exchange.warning?, Exchange.conflicts, conflict,
      List.filterMap_cons]
  | merged reached go pushed restored =>
    simp [reached.account, ← restored.account.1, restored.account.2, ← pushed.account.1,
      pushed.account.2]

-- ---------------------------------------------------------------------------
-- The end of an integration that fails
-- ---------------------------------------------------------------------------

theorem Restores.not_aborts (h : Restores b c t w d) (apart : b ≠ integration) :
    t.any (Exchange.aborts integration) = false := by
  cases h <;> simp [Exchange.aborts, apart]

theorem Pushes.not_aborts (h : Pushes settings c t ws d) :
    t.any (Exchange.aborts integration) = false := by
  cases h <;> simp [Exchange.aborts]

theorem Undoes.not_aborts (h : Undoes c t d)
    (apart : ∀ b, c.stage.origin? = some b → b ≠ integration) :
    t.any (Exchange.aborts integration) = false := by
  cases h with
  | settled h => rfl
  | leave h restored => exact restored.not_aborts (apart _ (congrArg Stage.origin? h))
  | abort h restored =>
    simp [Exchange.aborts, restored.not_aborts (apart _ (congrArg Stage.origin? h))]

theorem Reaches.not_aborts (h : Reaches settings description c p t d) :
    t.any (Exchange.aborts integration) = false := by
  induction h with
  | start => rfl
  | staged before go ok ih | onIntegration before go apart ok ih | merged before go ok ih =>
    simp [ih, Exchange.aborts, ok, Except.toBool]
  | committed before go ok named ih =>
    simp [ih, Exchange.aborts, ok, named, Except.toBool]

/-- The branch to go back to is not the integration branch, whatever the checkpoint. -/
theorem Reaches.origin_ne (h : Reaches settings description c p t d)
    (hf : c.stage.origin? = none) (hb : d.stage.origin? = some b) :
    b ≠ settings.integrationBranch := by
  rw [h.stage_eq] at hb
  cases p with
  | start => rw [show Checkpoint.start.stage c.stage = c.stage from rfl, hf] at hb; cases hb
  | staged | committed => cases hb
  | onIntegration =>
    cases hb
    exact h.names_onIntegration.2
  | merged =>
    cases hb
    exact h.names_merged.2

/-- A step that fails ends with the exchange that ends the run, and only a merge
leaves something to undo. -/
theorem Fails.halts {detail : String} {failed : Prop}
    (h : Fails settings description d p x d₁ detail)
    (reached : Reaches settings description c p t d) (hf : c.stage.origin? = none)
    (undone : Undoes d₁ u d') (hFailed : failed) :
    Halts settings.integrationBranch (x ++ u) failed := by
  have hStage : d.stage = p.stage c.stage := reached.stage_eq
  cases h with
  | stage error =>
    rw [undone.eq_nil (by rw [note_stage, hStage]; exact hf)]
    exact halts_cons hFailed (.inl rfl) rfl
  | commit error | switch apart error =>
    rw [undone.eq_nil (by rw [note_stage, hStage]; rfl)]
    exact halts_cons hFailed (.inl rfl) rfl
  | locate ok error =>
    rw [undone.eq_nil (by rw [note_stage, note_stage, hStage]; rfl)]
    refine (halts_cons hFailed (.inl rfl) rfl).append_left (t := [_]) ?_
    simp [Exchange.aborts, ok, Except.toBool]
  | merge error =>
    have apart := reached.names_onIntegration.2
    refine halts_cons hFailed (.inr ⟨_, rfl, undone.requests_eq⟩) (undone.not_aborts ?_)
    rintro b ⟨⟩
    exact apart

/-- The exchange that ends a failed step is there to be seen. -/
theorem Fails.any_aborts {detail : String} (h : Fails settings description d p x d' detail) :
    x.any (Exchange.aborts settings.integrationBranch) = true := by
  cases h with
  | stage error | commit error | switch apart error | merge error =>
    simp [Exchange.aborts, error, Except.toBool]
  | locate ok error => simp [Exchange.aborts, error, Except.toBool]

/-- **After the refusal that ends it, an integration only compensates.** -/
theorem Ends.halts {r : Except RunError Integration} (h : Ends settings description c t r d)
    (hf : c.stage.origin? = none) :
    Halts settings.integrationBranch t (∃ e, r = .error e) := by
  cases h with
  | interrupted reached stop undone =>
    refine halts_of_not_any ?_
    simp [reached.not_aborts, undone.not_aborts fun b => reached.origin_ne hf]
  | failed reached go fails undone =>
    exact (fails.halts reached hf undone ⟨_, rfl⟩).append_left reached.not_aborts
  | nothing reached go empty =>
    refine halts_of_not_any ?_
    simp [reached.not_aborts, Exchange.aborts, empty, Except.toBool]
  | already reached go pushed =>
    refine halts_of_not_any ?_
    simp [reached.not_aborts, pushed.not_aborts]
  | conflict reached go conflict restored =>
    refine halts_of_not_any ?_
    simp [reached.not_aborts, restored.not_aborts reached.names_onIntegration.2, Exchange.aborts,
      conflict, Except.toBool]
  | merged reached go pushed restored =>
    refine halts_of_not_any ?_
    simp [reached.not_aborts, pushed.not_aborts, restored.not_aborts reached.names_merged.2]

/-- **An integration fails for a reason that its trace shows**: the token is tripped,
or a refusal ended it. -/
theorem Ends.cause {e : RunError} (h : Ends settings description c t (.error e) d) :
    (d.interrupted || t.any (Exchange.aborts settings.integrationBranch)) = true := by
  cases h with
  | interrupted reached stop undone => simp [undone.interrupted_eq, stop]
  | failed reached go fails undone => simp [fails.any_aborts]

end Committer

end Errand
