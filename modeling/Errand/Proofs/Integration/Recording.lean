import Mathlib
import Errand.Proofs.Integration.Discipline
import Errand.Proofs.Run.Interrupt
import Errand.Proofs.Text.Pieces

/-!
# Errand — what a commit is told by Git

Before it commits, a run asks Git for the paths that are staged, and takes a list that is
blank for a staging area that is empty. It reads the text of the list and not how the command
ended. So a listing that is **legible**, one that succeeded and does not name blank paths only,
is read for what it is: nothing is said to be left to commit only if nothing was listed, or if
the commit itself failed for that reason, and every other failure is told. But a listing that
failed before it printed anything reads like an empty one, and so does one of blank paths.

* `VersionControl.Legible`  — a listing that means what it looks like.
* `VersionControl.Recorded` — the reply of a commit, read off the two commands behind it.
* `VersionControl.commit_recorded` — every commit is one, and so is that of an integration.
* `VersionControl.commit_misread`  — listings that are taken for empty ones.
-/

namespace Errand

open Dialogue

namespace VersionControl

-- ---------------------------------------------------------------------------
-- Listings
-- ---------------------------------------------------------------------------

/-- The paths that a listing names: its lines, but for empty ones. -/
def listedPaths (o : ChildOutput) : List (List Char) :=
  (Text.splitOn (· = '\n') o.stdoutText.toList).filter (· ≠ [])

/-- A listing is blank exactly if all its paths are. -/
theorem isBlank_iff_listedPaths {o : ChildOutput} :
    Text.isBlank o.stdoutText = true ↔ ∀ path ∈ listedPaths o, path.all Text.isSpace = true := by
  have hFeed : ∀ c, decide (c = '\n') = true → Text.isSpace c = true := by
    intro c hc
    obtain rfl := of_decide_eq_true hc
    decide
  rw [Text.isBlank, Text.all_splitOn hFeed]
  constructor
  · intro h path hPath
    exact h path (List.mem_filter.mp hPath).1
  · intro h piece hPiece
    by_cases hEmpty : piece = []
    · simp [hEmpty]
    · exact h piece (List.mem_filter.mpr ⟨hPiece, by simpa using hEmpty⟩)

/-- A listing that means what it looks like: the command succeeded, and if it names any path,
then one that can be seen. -/
structure Legible (o : ChildOutput) : Prop where
  succeeded : o.status.isSuccess = true
  visible : listedPaths o ≠ [] → ∃ path ∈ listedPaths o, path.all Text.isSpace = false

/-- A legible listing is blank exactly if it names no path. -/
theorem Legible.isBlank_iff {o : ChildOutput} (h : Legible o) :
    Text.isBlank o.stdoutText = true ↔ listedPaths o = [] := by
  rw [isBlank_iff_listedPaths]
  constructor
  · intro hAll
    by_cases hNone : listedPaths o = []
    · exact hNone
    · obtain ⟨path, hPath, hSeen⟩ := h.visible hNone
      rw [hAll path hPath] at hSeen
      cases hSeen
  · intro hNone path hPath
    rw [hNone] at hPath
    cases hPath

-- ---------------------------------------------------------------------------
-- Commands
-- ---------------------------------------------------------------------------

section Commands

variable {m : Type → Type} {σ : Type}

/-- The command that lists the staged paths. -/
def listing (git : Runner m) : m (Except Failure ChildOutput) :=
  git ["diff", "--cached", "--name-only"]

/-- The command that commits what is staged. -/
def recording (git : Runner m) (message : String) : m (Except Failure ChildOutput) :=
  git ["commit", "-m", message]

theorem hasStagedChanges_run (git : Runner (StateM σ)) (s : σ) :
    (hasStagedChanges git).run s =
      let listed := (listing git).run s
      (listed.1.map fun o => !Text.isBlank o.stdoutText, listed.2) := by
  rw [hasStagedChanges, StateT.run_bind, listing]
  obtain ⟨f | o, s'⟩ := (git ["diff", "--cached", "--name-only"]).run s <;> rfl

/-- A commit is the listing and, unless that is blank, the command itself. -/
theorem commit_run (git : Runner (StateM σ)) (message : String) (s : σ) :
    let listed := (listing git).run s
    let recorded := (recording git message).run listed.2
    ((commit git message).run s).1 = listed.1 >>= fun o =>
      if Text.isBlank o.stdoutText then .ok .nothingToCommit else recorded.1 >>= commitStatus := by
  rw [commit, StateT.run_bind, hasStagedChanges_run]
  obtain ⟨f | o, s'⟩ := (listing git).run s
  · rfl
  · cases hBlank : Text.isBlank o.stdoutText with
    | true =>
      simp only [Except.map, hBlank, Bool.not_true]
      exact (if_pos hBlank).symm
    | false =>
      simp only [Except.map, hBlank, Bool.not_false]
      refine Eq.trans ?_ (if_neg (by simp [hBlank])).symm
      change (StateT.run (git ["commit", "-m", message] >>= _) s').1 = _
      rw [StateT.run_bind, recording]
      obtain ⟨f | o', s''⟩ := (git ["commit", "-m", message]).run s' <;> rfl

end Commands

/-- When a finished commit command means that nothing was left to commit. -/
theorem commitStatus_nothing_iff {o : ChildOutput} : commitStatus o = .ok .nothingToCommit ↔
    o.status.isSuccess = false ∧ saysNothingToCommit (report o) = true := by
  rw [commitStatus]
  cases o.status.isSuccess <;> cases saysNothingToCommit (report o) <;> simp

/-- When a finished commit command means that something was committed. -/
theorem commitStatus_committed_iff {o : ChildOutput} :
    commitStatus o = .ok .committed ↔ o.status.isSuccess = true := by
  rw [commitStatus]
  cases o.status.isSuccess <;> cases saysNothingToCommit (report o) <;> simp

/-- A status is only told of a command that finished. -/
theorem bind_commitStatus_iff {recorded : Except Failure ChildOutput} {status : CommitStatus} :
    recorded >>= commitStatus = .ok status ↔
      ∃ o, recorded = .ok o ∧ commitStatus o = .ok status := by
  cases recorded with
  | error f => simp [Bind.bind, Except.bind]
  | ok o => simp [Bind.bind, Except.bind]

-- ---------------------------------------------------------------------------
-- Commits
-- ---------------------------------------------------------------------------

variable {listed recorded : Except Failure ChildOutput} {r : Except Failure CommitStatus}

/-- The reply of a commit in the light of the two commands behind it: what the listing came to,
and what the command that commits comes to if it is run after it. -/
structure Recorded (listed recorded : Except Failure ChildOutput)
    (r : Except Failure CommitStatus) : Prop where
  /-- Without a listing there is no commit. -/
  unlisted : ∀ f, listed = .error f → r = .error f
  /-- Nothing is left to commit exactly if nothing is listed, or the commit failed for that. -/
  nothing_iff : ∀ o, listed = .ok o → Legible o → (r = .ok .nothingToCommit ↔
    listedPaths o = [] ∨ ∃ o', recorded = .ok o' ∧ o'.status.isSuccess = false ∧
      saysNothingToCommit (report o') = true)
  /-- Something is committed exactly if it was listed and the commit succeeded. -/
  committed_iff : ∀ o, listed = .ok o → Legible o → (r = .ok .committed ↔
    listedPaths o ≠ [] ∧ ∃ o', recorded = .ok o' ∧ o'.status.isSuccess = true)
  /-- Otherwise the reply is a failure: that of a command that could not be started, -/
  unstarted : ∀ o f, listed = .ok o → Legible o → listedPaths o ≠ [] → recorded = .error f →
    r = .error f
  /-- or the report of one that failed. -/
  failed : ∀ o o', listed = .ok o → Legible o → listedPaths o ≠ [] → recorded = .ok o' →
    o'.status.isSuccess = false → saysNothingToCommit (report o') = false →
      r = .error (.of ("git commit failed: " ++ report o'))
  /-- Legible or not, it is the text of the listing that counts, not how the command ended. -/
  heedless : ∀ o, listed = .ok o →
    r = if Text.isBlank o.stdoutText then .ok .nothingToCommit else recorded >>= commitStatus

/-- A reply that goes by the text of the listing is one of these. -/
theorem Recorded.of_text (h : r = listed >>= fun o =>
    if Text.isBlank o.stdoutText then .ok .nothingToCommit else recorded >>= commitStatus) :
    Recorded listed recorded r := by
  have hText : ∀ o, listed = .ok o →
      r = if Text.isBlank o.stdoutText then .ok .nothingToCommit
        else recorded >>= commitStatus := by
    rintro o rfl
    exact h
  have hEmpty : ∀ o, listed = .ok o → Legible o → listedPaths o = [] →
      r = .ok .nothingToCommit := by
    intro o ho legible hNone
    rw [hText o ho, if_pos (legible.isBlank_iff.mpr hNone)]
  have hFull : ∀ o, listed = .ok o → Legible o → listedPaths o ≠ [] →
      r = recorded >>= commitStatus := by
    intro o ho legible hSome
    rw [hText o ho, if_neg fun hBlank => hSome (legible.isBlank_iff.mp hBlank)]
  refine ⟨?_, ?_, ?_, ?_, ?_, hText⟩
  · rintro f rfl
    exact h
  · intro o ho legible
    by_cases hNone : listedPaths o = []
    · simp [hEmpty o ho legible hNone, hNone]
    · rw [hFull o ho legible hNone, bind_commitStatus_iff]
      simp [hNone, commitStatus_nothing_iff]
  · intro o ho legible
    by_cases hNone : listedPaths o = []
    · simp [hEmpty o ho legible hNone, hNone]
    · rw [hFull o ho legible hNone, bind_commitStatus_iff]
      simp [hNone, commitStatus_committed_iff]
  · rintro o f ho legible hSome rfl
    exact hFull o ho legible hSome
  · rintro o o' ho legible hSome rfl hFails hOther
    rw [hFull o ho legible hSome]
    simp [Bind.bind, Except.bind, commitStatus, hFails, hOther]

end VersionControl

-- ---------------------------------------------------------------------------
-- Integrations
-- ---------------------------------------------------------------------------

namespace Dialogue

variable {α σ : Type} {script : Script σ} {d : Dialogue α} {s : σ} {t : List Exchange}

/-- What stands first in a trace was asked first, and the rest is that of what follows. -/
theorem run_eq_cons {q : Request} {a : Answer q} (h : (d.run script s).2.1 = ⟨q, a⟩ :: t) :
    a = (script q s).1 ∧ ∃ next, d = .ask q next ∧
      ((next a).run script (script q s).2).2.1 = t := by
  cases d with
  | done value => cases h
  | ask q' next =>
    obtain ⟨⟨rfl, hAnswer⟩, hRest⟩ := by simpa [run] using h
    obtain rfl := eq_of_heq hAnswer
    exact ⟨rfl, next, rfl, hRest⟩

end Dialogue

namespace Committer

variable {settings : GitSettings} {description : String} {c d : Committer} {t : List Exchange}

/-- A trace that begins with the staging and a commit that was not refused. -/
def Opens (settings : GitSettings) (description : String) (t : List Exchange) : Prop :=
  ∃ (a : Answer .stageAll) (b : Answer (.commit (commitMessage settings.commitLead description)))
    (status : CommitStatus) (rest : List Exchange),
    t = ⟨_, a⟩ :: ⟨_, b⟩ :: rest ∧ b.reply = .ok status

theorem Opens.append (h : Opens settings description t) (u : List Exchange) :
    Opens settings description (t ++ u) := by
  obtain ⟨a, b, status, rest, rfl, hb⟩ := h
  exact ⟨a, b, status, rest ++ u, rfl, hb⟩

theorem Reaches.staged_eq (h : Reaches settings description c .staged t d) :
    ∃ a : Answer .stageAll, t = [⟨_, a⟩] := by
  cases h with
  | @staged t d a before go ok =>
    cases before
    exact ⟨a, rfl⟩

theorem Reaches.opens_committed {b : String}
    (h : Reaches settings description c (.committed b) t d) : Opens settings description t := by
  cases h with
  | @committed t d b a₁ a₂ before go ok named =>
    obtain ⟨a, rfl⟩ := before.staged_eq
    exact ⟨a, a₁, .committed, _, rfl, ok⟩

theorem Reaches.opens_onIntegration {b : String}
    (h : Reaches settings description c (.onIntegration b) t d) :
    Opens settings description t := by
  cases h with
  | onIntegration before go apart ok => exact before.opens_committed.append _

theorem Reaches.opens_merged {b : String}
    (h : Reaches settings description c (.merged b) t d) : Opens settings description t := by
  cases h with
  | merged before go ok => exact before.opens_onIntegration.append _

/-- **No integration comes to a result without a commit** that comes to one. -/
theorem Ends.opens {n : Integration} (h : Ends settings description c t (.ok n) d) :
    Opens settings description t := by
  cases h with
  | @nothing t d b reached go empty =>
    obtain ⟨a, rfl⟩ := reached.staged_eq
    exact ⟨a, b, .nothingToCommit, [], rfl, empty⟩
  | already reached go pushed => exact reached.opens_committed.append _
  | conflict reached go conflict restored => exact reached.opens_onIntegration.append _
  | merged reached go pushed restored => exact reached.opens_merged.append _

end Committer

namespace Collaborators

variable {σ : Type}

/-- An integration that comes to a result has had the reply of a commit in the state that
the staging left. -/
theorem integrate_commit (c : Collaborators (StateM σ)) {settings : GitSettings}
    {committer : Committer} {description : String} {files : List String} {s : σ}
    {n : Integration} (hFiles : files ≠ [])
    (h : (((committer.integrate settings description files).play c.answer).run s).1.1 = .ok n) :
    ∃ status, ((VersionControl.commit (VersionControl.onHost c.host)
      (commitMessage settings.commitLead description)).run
        ((c.answer .stageAll).run s).2).1 = .ok status := by
  let d := committer.integrate settings description files
  have hRan : (d.run c.script s).1.1 = .ok n :=
    (congrArg (·.1.1) (play_run c.answer d s)).symm.trans h
  have hLeads : d.Leads (d.run c.script s).2.1 (.ok n, (d.run c.script s).1.2) :=
    hRan ▸ run_leads c.script d s
  rcases Committer.integrate_ends hLeads with ⟨hNone, -⟩ | ⟨-, hEnds⟩
  · exact absurd hNone hFiles
  obtain ⟨a, b, status, rest, hTrace, hStatus⟩ := hEnds.opens
  obtain ⟨-, next, -, hRest⟩ := run_eq_cons hTrace
  obtain ⟨rfl, -⟩ := run_eq_cons hRest
  exact ⟨status, hStatus⟩

end Collaborators

namespace VersionControl

/--
**A commit is told what Git says.** However the commands of Git end and whatever they print,
the reply of a commit is as `Recorded` says, so that no failure passes for an empty staging
area where the listing is legible. And an integration comes to a result, merged or not, only if
there was a listing in the state that the staging left: one that names no path, or after it a
commit that succeeded or failed for want of something to commit, if it is legible.
-/
theorem commit_recorded {σ : Type} :
    (∀ (git : Runner (StateM σ)) (message : String) (s : σ),
      let listed := (listing git).run s
      let recorded := (recording git message).run listed.2
      Recorded listed.1 recorded.1 ((commit git message).run s).1) ∧
    ∀ (c : Collaborators (StateM σ)) (settings : GitSettings) (committer : Committer)
      (description : String) (files : List String) (s : σ) (n : Integration), files ≠ [] →
      (((committer.integrate settings description files).play c.answer).run s).1.1 = .ok n →
      let git := onHost c.host
      let listed := (listing git).run ((c.answer .stageAll).run s).2
      let recorded :=
        (recording git (commitMessage settings.commitLead description)).run listed.2
      ∃ o, listed.1 = .ok o ∧ (Legible o → listedPaths o = [] ∨ ∃ o', recorded.1 = .ok o' ∧
        (o'.status.isSuccess = true ∨ saysNothingToCommit (report o') = true)) := by
  have hCommit (git : Runner (StateM σ)) (message : String) (s : σ) :
      let listed := (listing git).run s
      let recorded := (recording git message).run listed.2
      Recorded listed.1 recorded.1 ((commit git message).run s).1 :=
    .of_text (commit_run git message s)
  refine ⟨hCommit, ?_⟩
  intro c settings committer description files s n hFiles h git listed recorded
  obtain ⟨status, hStatus⟩ := c.integrate_commit hFiles h
  have hRecorded := hCommit git (commitMessage settings.commitLead description)
    ((c.answer .stageAll).run s).2
  rw [hStatus] at hRecorded
  cases hListed : listed.1 with
  | error f => cases hRecorded.unlisted f hListed
  | ok o =>
    refine ⟨o, rfl, fun legible => ?_⟩
    cases status with
    | nothingToCommit =>
      refine ((hRecorded.nothing_iff o hListed legible).mp rfl).imp_right ?_
      rintro ⟨o', ho', -, hSays⟩
      exact ⟨o', ho', .inr hSays⟩
    | committed =>
      obtain ⟨-, o', ho', hSucceeds⟩ := (hRecorded.committed_iff o hListed legible).mp rfl
      exact .inr ⟨o', ho', .inl hSucceeds⟩

/-- A Git that answers each command by its name, and that nobody interrupts. -/
def rehearsed (git : String → ChildOutput) : Host (StateM Unit) where
  run command := return .ok (git (command.arguments.headD ""))
  interrupted := return false

/-- A command that exited and printed a text. -/
def printed (code : Nat) (text : String) : ChildOutput :=
  { status := .exited code, stdout := ⟨(Text.encode text).toArray, 0⟩ }

/-- Commits of a listed file: one that a hook refuses, and one that is integrated. -/
theorem commit_recorded_listed :
    let git (code : Nat) (text : String) : String → ChildOutput
      | "diff" => printed 0 "a\n"
      | "commit" => printed code text
      | "rev-parse" => printed 0 "main\n"
      | _ => printed 0 ""
    let c : Collaborators (StateM Unit) :=
      { host := rehearsed (git 0 ""), config := {}, pattern := default }
    let settings : GitSettings := { push := false }
    Legible (printed 0 "a\n") ∧
      ((commit (onHost (rehearsed (git 1 "no"))) "t").run ()).1 =
        .error (.of "git commit failed: no") ∧
      (((Committer.integrate settings {} "t" ["a"]).play c.answer).run ()).1.1 = .ok ⟨true, []⟩ ∧
      ∃ o, ((listing (onHost c.host)).run ((c.answer .stageAll).run ()).2).1 = .ok o ∧
        (Legible o → listedPaths o = [] ∨ ∃ o',
          ((recording (onHost c.host) (commitMessage settings.commitLead "t")).run ()).1 = .ok o' ∧
            (o'.status.isSuccess = true ∨ saysNothingToCommit (report o') = true)) := by
  intro git c settings
  have hPaths : listedPaths (printed 0 "a\n") = [['a']] := by cbv
  have hSome : listedPaths (printed 0 "a\n") ≠ [] := by simp [hPaths]
  have hLegible : Legible (printed 0 "a\n") :=
    ⟨rfl, fun _ => ⟨['a'], hPaths ▸ List.mem_singleton_self _, by decide⟩⟩
  have hReport : report (printed 1 "no") = "no" := by cbv
  have hRefused : ((commit (onHost (rehearsed (git 1 "no"))) "t").run ()).1 =
      .error (.of "git commit failed: no") := by
    have hFailed := (commit_recorded.1 (onHost (rehearsed (git 1 "no"))) "t" ()).failed _
      (printed 1 "no") rfl hLegible hSome rfl rfl (by rw [hReport]; decide)
    rw [hFailed, hReport]
    rfl
  have hMerged : (((Committer.integrate settings {} "t" ["a"]).play c.answer).run ()).1.1 =
      .ok ⟨true, []⟩ := by cbv
  exact ⟨hLegible, hRefused, hMerged,
    commit_recorded.2 c settings {} "t" ["a"] () _ (by simp) hMerged⟩

/-- Listings that are not legible and are taken for empty ones: one that fails before it prints
anything, and one of a file whose name is a blank. Both pass for an integration that is done.
A listing that fails after it has printed something is committed. -/
theorem commit_misread :
    let git (listed : ChildOutput) : String → ChildOutput
      | "diff" => listed
      | _ => printed 0 ""
    let reply (listed : ChildOutput) :=
      ((commit (onHost (rehearsed (git listed))) "t").run ()).1
    let merged (listed : ChildOutput) :=
      let c : Collaborators (StateM Unit) :=
        { host := rehearsed (git listed), config := {}, pattern := default }
      (((Committer.integrate {} {} "t" ["a"]).play c.answer).run ()).1.1
    (printed 128 "").status.isSuccess = false ∧ reply (printed 128 "") = .ok .nothingToCommit ∧
      merged (printed 128 "") = .ok ⟨true, []⟩ ∧
    listedPaths (printed 0 " \n") = [[' ']] ∧ reply (printed 0 " \n") = .ok .nothingToCommit ∧
      merged (printed 0 " \n") = .ok ⟨true, []⟩ ∧
    (printed 128 "a\n").status.isSuccess = false ∧
      reply (printed 128 "a\n") = .ok .committed := by
  refine ⟨rfl, ?_, ?_, ?_, ?_, ?_, rfl, ?_⟩ <;> cbv

end VersionControl

end Errand
