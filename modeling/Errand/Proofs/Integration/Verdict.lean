import Errand.Proofs.Integration.Account
import Errand.Proofs.Integration.Discipline

/-!
# Errand — the verdict on an integration

As long as nobody interrupts it, an integration is judged by the first of its steps
that does not succeed. If that step failed, so did the integration, and the detail
quotes the failure; otherwise the integration comes to a result, in which only a
conflict keeps the work from counting as merged. What fails later, or elsewhere, is a
warning at most.

* `Setback`, `firstSetback?` — what a step meets with in place of success; the first of a trace.
* `failureLead`      — how the detail of a failure names the step.
* `Warning.Concerns` — the branch that a warning names is one of the two at hand.
* `Verdict`          — the result of an integration, read off its trace.
* `Ends.verdict`     — every course that is not interrupted comes to this verdict.
* `integrate_verdict` — the verdict on a call, against any script.
-/

namespace Errand

/-- What a step on the way to the merge meets with in place of success. -/
inductive Setback where
  /-- The step failed. -/
  | failure (step : Request) (f : Failure)
  /-- There was nothing to commit. -/
  | nothing
  /-- The branch could not be merged by machine. -/
  | conflict

/-- The words in front of the failure of a step. -/
def Request.failureLead (integration : String) : Request → String
  | .stageAll => "stage changes: "
  | .currentBranch => "read current branch: "
  | .checkout target => "switch to " ++ target ++ ": "
  | .merge b => "merge " ++ b ++ " into " ++ integration ++ ": "
  | _ => ""

/-- The warning is about the working branch `b`, or about a push of the integration branch. -/
def Warning.Concerns (integration b : String) : Warning → Prop
  | .mergeConflict branch _ => branch = b
  | .pushFailed branch _ => branch = integration
  | .branchNotRestored branch _ => branch = b
  | .issueCreationFailed _ _ => False

namespace Dialogue

variable {integration : String} {t u : List Exchange}

/--
What a step met with in place of success. A push is no step on the way to the merge,
and a checkout is one only if it is that of the integration branch.
-/
def Exchange.setback? (integration : String) : Exchange → Option Setback
  | ⟨.stageAll, a⟩ =>
    match a.reply with
    | .error e => some (.failure .stageAll e)
    | .ok () => none
  | ⟨.commit message, a⟩ =>
    match a.reply with
    | .error e => some (.failure (.commit message) e)
    | .ok .nothingToCommit => some .nothing
    | .ok .committed => none
  | ⟨.currentBranch, a⟩ =>
    match a.reply with
    | .error e => some (.failure .currentBranch e)
    | .ok _ => none
  | ⟨.checkout target, a⟩ =>
    match a.reply with
    | .error e => if target = integration then some (.failure (.checkout target) e) else none
    | .ok () => none
  | ⟨.merge b, a⟩ =>
    match a.reply with
    | .error e => some (.failure (.merge b) e)
    | .ok (.conflict _) => some .conflict
    | .ok .merged => none
  | _ => none

/-- The first setback of a trace. -/
def firstSetback? (integration : String) (t : List Exchange) : Option Setback :=
  t.findSome? (Exchange.setback? integration)

theorem Exchange.setback?_eq_none {e : Exchange} (h : e.succeeds = true) :
    e.setback? integration = none := by
  obtain ⟨r, a⟩ := e
  cases r with
  | commit message =>
    obtain ⟨(e | _ | _), _⟩ := a
    · cases h
    · rfl
    · cases h
  | merge b =>
    obtain ⟨(e | _ | detail), _⟩ := a
    · cases h
    · rfl
    · cases h
  | stageAll | currentBranch | checkout target =>
    obtain ⟨(e | _), _⟩ := a
    · cases h
    · rfl
  | _ => rfl

@[simp]
theorem firstSetback?_nil : firstSetback? integration [] = none := rfl

@[simp]
theorem firstSetback?_cons {e : Exchange} : firstSetback? integration (e :: t) =
    (e.setback? integration).or (firstSetback? integration t) := by
  rw [firstSetback?, List.findSome?_cons]
  cases e.setback? integration <;> rfl

@[simp]
theorem firstSetback?_append : firstSetback? integration (t ++ u) =
    (firstSetback? integration t).or (firstSetback? integration u) := List.findSome?_append

theorem Exchange.conflicts_iff {e : Exchange} : e.conflicts = true ↔
    ∃ b, ∃ a : Answer (.merge b), ∃ detail,
      e = ⟨.merge b, a⟩ ∧ a.reply = .ok (.conflict detail) := by
  constructor
  · intro h
    obtain ⟨r, a⟩ := e
    cases r with
    | merge b =>
      obtain ⟨(e | _ | detail), i⟩ := a
      · cases h
      · cases h
      · exact ⟨b, _, detail, rfl, rfl⟩
    | _ => cases h
  · rintro ⟨b, a, detail, rfl, hr⟩
    simp [Exchange.conflicts, hr]

end Dialogue

namespace Committer

open Dialogue

variable {settings : GitSettings} {description b : String} {c d d' : Committer}
  {p : Checkpoint} {t u x : List Exchange} {w : Option Warning} {ws : List Warning}

/-- The failure of a step is the first setback of the trace, and the detail quotes it. -/
theorem Fails.setback {detail : String} (h : Fails settings description d p x d' detail) :
    ∃ step f, firstSetback? settings.integrationBranch x = some (.failure step f) ∧
      detail = step.failureLead settings.integrationBranch ++ f.text := by
  cases h with
  | @stage a e error => exact ⟨.stageAll, e, by simp [Exchange.setback?, error], rfl⟩
  | @commit a e error =>
    refine ⟨.commit (commitMessage settings.commitLead description), e, ?_, ?_⟩
    · simp [Exchange.setback?, error]
    · exact String.empty_append.symm
  | @locate a₁ a₂ e ok error =>
    exact ⟨.currentBranch, e, by simp [Exchange.setback?, ok, error], rfl⟩
  | @switch b a e apart error =>
    exact ⟨.checkout _, e, by simp [Exchange.setback?, error], rfl⟩
  | @merge b a e error =>
    exact ⟨.merge b, e, by simp [Exchange.setback?, error], rfl⟩

/-- No checkpoint is reached through a setback. -/
theorem Reaches.no_setback (h : Reaches settings description c p t d) :
    firstSetback? settings.integrationBranch t = none :=
  List.findSome?_eq_none_iff.mpr fun e he => Exchange.setback?_eq_none (h.succeeds e he)

theorem Restores.concerns (h : Restores b c t w d) :
    ∀ x ∈ w, x.Concerns settings.integrationBranch b := by
  cases h with
  | back ok => simp
  | stuck error => simp [Warning.Concerns]

theorem Pushes.concerns (h : Pushes settings c t ws d) :
    ∀ x ∈ ws, x.Concerns settings.integrationBranch b := by
  cases h <;> simp [Warning.Concerns]

/-- Neither a push nor a return to the working branch is a setback. -/
theorem Restores.no_setback (h : Restores b c t w d) (apart : b ≠ settings.integrationBranch) :
    firstSetback? settings.integrationBranch t = none := by
  cases h with
  | back ok => simp [Exchange.setback?, ok]
  | stuck error => simp [Exchange.setback?, error, apart]

theorem Pushes.no_setback (h : Pushes settings c t ws d) :
    firstSetback? settings.integrationBranch t = none := by
  cases h <;> rfl

/-- The result of an integration that nobody interrupts, read off its trace. -/
structure Verdict (settings : GitSettings) (description : String) (t : List Exchange)
    (r : Except RunError Integration) : Prop where
  /-- It fails exactly if the first setback is a failure. -/
  failed_iff : (∃ detail, r = .error (.commitFailed detail)) ↔
    ∃ step f, firstSetback? settings.integrationBranch t = some (.failure step f)
  /-- The detail quotes that failure. -/
  detail : ∀ step f, firstSetback? settings.integrationBranch t = some (.failure step f) →
    r = .error (.commitFailed (step.failureLead settings.integrationBranch ++ f.text))
  /-- If it does not fail, it comes to a result. -/
  result : (∀ step f, firstSetback? settings.integrationBranch t ≠ some (.failure step f)) →
    ∃ n, r = .ok n
  /-- The work counts as merged, unless the merge was answered with a conflict. -/
  merged : ∀ n, r = .ok n → (n.merged = false ↔ ∃ b, ∃ a : Answer (.merge b), ∃ detail,
    ⟨.merge b, a⟩ ∈ t ∧ a.reply = .ok (.conflict detail))
  /-- The warnings are what the exchanges leave, in their order. -/
  warnings : ∀ n, r = .ok n → n.warnings = t.filterMap Exchange.warning?
  /-- They are about the branch that was named and the integration branch. -/
  concerns : ∀ n, r = .ok n → ∀ w ∈ n.warnings,
    ∃ b, Names t b ∧ w.Concerns settings.integrationBranch b
  /-- With nothing to commit that is all. -/
  nothing : firstSetback? settings.integrationBranch t = some .nothing →
    r = .ok ⟨true, []⟩ ∧
      requests t = [.stageAll, .commit (commitMessage settings.commitLead description)]
  /-- Without a setback the route is followed to its end, and the working branch checked out. -/
  whole : firstSetback? settings.integrationBranch t = none → ∃ b, Names t b ∧
    requests t = route settings description b ++
      if b = settings.integrationBranch then [] else [.checkout b]

theorem Verdict.of_failure {step : Request} {f : Failure}
    (hFirst : firstSetback? settings.integrationBranch t = some (.failure step f)) :
    Verdict settings description t
      (.error (.commitFailed (step.failureLead settings.integrationBranch ++ f.text))) where
  failed_iff := ⟨fun _ => ⟨step, f, hFirst⟩, fun _ => ⟨_, rfl⟩⟩
  detail step' f' h := by
    rw [hFirst] at h
    cases h
    rfl
  result h := absurd hFirst (h step f)
  merged n hn := by cases hn
  warnings n hn := by cases hn
  concerns n hn := by cases hn
  nothing h := by
    rw [hFirst] at h
    cases h
  whole h := by
    rw [hFirst] at h
    cases h

theorem Verdict.of_result {n : Integration}
    (hFirst : ∀ step f, firstSetback? settings.integrationBranch t ≠ some (.failure step f))
    (hAccount : n.warnings = t.filterMap Exchange.warning? ∧ n.merged = !t.any Exchange.conflicts)
    (hConcerns : ∀ w ∈ n.warnings, ∃ b, Names t b ∧ w.Concerns settings.integrationBranch b)
    (hNothing : firstSetback? settings.integrationBranch t = some .nothing → n = ⟨true, []⟩ ∧
      requests t = [.stageAll, .commit (commitMessage settings.commitLead description)])
    (hWhole : firstSetback? settings.integrationBranch t = none → ∃ b, Names t b ∧
      requests t = route settings description b ++
        if b = settings.integrationBranch then [] else [.checkout b]) :
    Verdict settings description t (.ok n) where
  failed_iff := by
    constructor
    · rintro ⟨detail, hr⟩
      cases hr
    · rintro ⟨step, f, h⟩
      exact absurd h (hFirst step f)
  detail step f h := absurd h (hFirst step f)
  result _ := ⟨n, rfl⟩
  merged n' hn := by
    cases hn
    rw [hAccount.2, Bool.not_eq_false', List.any_eq_true]
    constructor
    · rintro ⟨e, he, hConflicts⟩
      obtain ⟨b, a, detail, rfl, hr⟩ := Exchange.conflicts_iff.mp hConflicts
      exact ⟨b, a, detail, he, hr⟩
    · rintro ⟨b, a, detail, he, hr⟩
      exact ⟨_, he, Exchange.conflicts_iff.mpr ⟨b, a, detail, rfl, hr⟩⟩
  warnings n' hn := by
    cases hn
    exact hAccount.1
  concerns n' hn := by
    cases hn
    exact hConcerns
  nothing h := (hNothing h).imp_left (congrArg Except.ok)
  whole := hWhole

/-- **The verdict on an integration that nobody interrupts**, however it ends. -/
theorem Ends.verdict {r : Except RunError Integration} (h : Ends settings description c t r d)
    (calm : d.interrupted = false) : Verdict settings description t r := by
  cases h with
  | interrupted reached stop undone => simp [undone.interrupted_eq, stop] at calm
  | failed reached go fails undone =>
    obtain ⟨step, f, hFirst, rfl⟩ := fails.setback
    rw [calm]
    refine .of_failure ?_
    simp [firstSetback?_append, reached.no_setback, hFirst]
  | @nothing t d a reached go empty =>
    have hFirst : firstSetback? settings.integrationBranch (t ++ [⟨_, a⟩]) = some .nothing := by
      simp [reached.no_setback, Exchange.setback?, empty]
    refine .of_result (by simp [hFirst]) (Ends.nothing reached go empty).account (by simp) ?_
      (by simp [hFirst])
    exact fun _ => ⟨rfl, by simp [reached.requests_eq, Checkpoint.way]⟩
  | @already t u d d' ws reached go pushed =>
    have hFirst : firstSetback? settings.integrationBranch (t ++ u) = none := by
      simp [reached.no_setback, pushed.no_setback]
    refine .of_result (by simp [hFirst]) (Ends.already reached go pushed).account
      (fun w hw => ⟨_, reached.names.append, pushed.concerns w hw⟩) (by simp [hFirst]) fun _ => ?_
    refine ⟨_, reached.names.append, ?_⟩
    simp [reached.requests_eq, pushed.requests_eq, Checkpoint.way, route, delivery]
  | @conflict t u d d' b detail a₁ a₂ w reached go conflict restored =>
    have hFirst : firstSetback? settings.integrationBranch
        (t ++ (⟨.merge b, a₁⟩ :: ⟨.abortMerge, a₂⟩ :: u)) = some .conflict := by
      simp [reached.no_setback, Exchange.setback?, conflict]
    refine .of_result (by simp [hFirst]) (Ends.conflict reached go conflict restored).account
      (fun w hw => ⟨b, reached.names_onIntegration.1.append, ?_⟩) (by simp [hFirst])
      (by simp [hFirst])
    rcases List.mem_append.mp hw with hw | hw
    · obtain rfl := List.mem_singleton.mp hw
      rfl
    · exact restored.concerns w (Option.mem_toList.mp hw)
  | @merged t u v d d₁ d' b ws w reached go pushed restored =>
    obtain ⟨hNames, apart⟩ := reached.names_merged
    have hFirst : firstSetback? settings.integrationBranch (t ++ (u ++ v)) = none := by
      simp [reached.no_setback, pushed.no_setback, restored.no_setback apart]
    refine .of_result (by simp [hFirst]) (Ends.merged reached go pushed restored).account
      (fun w hw => ⟨b, hNames.append, ?_⟩) (by simp [hFirst]) fun _ => ⟨b, hNames.append, ?_⟩
    · rcases List.mem_append.mp hw with hw | hw
      · exact pushed.concerns w hw
      · exact restored.concerns w (Option.mem_toList.mp hw)
    · simp [reached.requests_eq, pushed.requests_eq, restored.requests_eq, Checkpoint.way, route,
        delivery, apart]

/--
**The verdict on a call of a committer**, new or not, with some modified files, during
which the token is not tripped.
-/
theorem integrate_verdict {σ : Type} (script : Script σ) (settings : GitSettings)
    (description : String) {files : List String} (stage : Stage) (s : σ) (hFiles : files ≠ [])
    (calm : tripped ((integrate settings ⟨stage, false⟩ description files).run script s).2.1 =
      false) :
    let ran := (integrate settings ⟨stage, false⟩ description files).run script s
    Verdict settings description ran.2.1 ran.1.1 := by
  intro ran
  have hLeads := run_leads script (integrate settings ⟨stage, false⟩ description files) s
  rcases integrate_ends hLeads with ⟨hNone, -⟩ | ⟨-, hEnds⟩
  · exact absurd hNone hFiles
  · refine hEnds.verdict ?_
    rw [hEnds.interrupted_eq, calm]
    rfl

/-- A merge that goes through, a push that is rejected and a return that is refused. -/
theorem integrate_verdict_unpushed :
    let s : Rehearsal :=
      { pushes := [⟨false, some (.of "rejected"), ()⟩],
        checkouts := [⟨false, none, ()⟩, ⟨false, some (.of "locked"), ()⟩] }
    let ran := (integrate {} ⟨.clean, false⟩ "Fix typo" ["README.md"]).run Rehearsal.answer s
    (["README.md"] ≠ [] ∧ tripped ran.2.1 = false) ∧
      ran.1.1 = .ok ⟨true, [.pushFailed "main" "rejected", .branchNotRestored "work" "locked"]⟩ ∧
      Verdict {} "Fix typo" ran.2.1 ran.1.1 :=
  ⟨⟨by simp, rfl⟩, rfl, integrate_verdict Rehearsal.answer {} "Fix typo" .clean _ (by simp) rfl⟩

end Committer

end Errand
