import Errand.Proofs.Run.Order

/-!
# Errand — the filing of issues

Issues are filed one after the other, and no reply of the tracker keeps the next from being
filed; only the token does. It is looked at before each issue and not after the last one, so
a list that is empty or already at its last issue is filed to its end. Each reply is then in
one of three places: with an id among those created, as a refusal among the warnings, under
the title that was asked for, or it said nothing.

* `FilingReply`     — what the tracker can reply, and what each reply leaves.
* `Publishes.interrupted_iff` — which interrupts end a filing early.
* `Filed`           — the filing of a list, read off its trace.
* `publish_files`   — every filing is one.
-/

namespace Errand

open Dialogue

variable {settings : TrackerSettings} {issues : List DiscoveredIssue} {i i' : Bool}
  {p p' : Publication} {t : List Exchange}

-- ---------------------------------------------------------------------------
-- Replies
-- ---------------------------------------------------------------------------

/-- What the tracker replies to an issue: an id, or nothing readable, or why it refused. -/
abbrev FilingReply := Except Failure (Option String)

namespace FilingReply

/-- The id that a reply brings. -/
def id? : FilingReply → Option String
  | .ok id => id
  | .error _ => none

/-- The warning that a refusal leaves, with the title asked for and the whole reason. -/
def warning? (title : String) : FilingReply → Option Warning
  | .ok _ => none
  | .error e => some (.issueCreationFailed title e.text)

/-- The issue was filed, and no id could be read. -/
def isSilent : FilingReply → Bool
  | .ok none => true
  | .ok (some _) | .error _ => false

/-- Every reply brings an id, or leaves a warning, or is silent. -/
theorem one_of_three (title : String) (reply : FilingReply) :
    reply.id?.toList.length + (reply.warning? title).toList.length +
      [reply].countP isSilent = 1 := by
  obtain e | _ | id := reply <;> rfl

end FilingReply

/-- The reply in an answer of the tracker. -/
def Answer.filing {q : IssueRequest} (a : Answer (.createIssue q)) : FilingReply := a.reply

/-- The reply of the tracker, if it was asked. -/
def Dialogue.Exchange.filingReply? : Exchange → Option FilingReply
  | ⟨.createIssue _, a⟩ => some a.filing
  | _ => none

/-- The replies of the tracker, in order. -/
def filingReplies (t : List Exchange) : List FilingReply := t.filterMap Exchange.filingReply?

/-- The warnings of some issues and the replies to them. -/
def filingWarnings (settings : TrackerSettings) (issues : List DiscoveredIssue)
    (replies : List FilingReply) : List Warning :=
  (issues.zip replies).filterMap fun (issue, reply) =>
    reply.warning? (buildRequest settings issue).title

/-- What is taken from the first of some items stands before what is taken from the rest. -/
theorem filterMap_cons_toList {α β : Type} (f : α → Option β) (a : α) (as : List α) :
    (a :: as).filterMap f = (f a).toList ++ as.filterMap f := by
  rw [List.filterMap_cons]
  cases f a <;> rfl

theorem filingWarnings_cons (issue : DiscoveredIssue) (reply : FilingReply)
    (replies : List FilingReply) :
    filingWarnings settings (issue :: issues) (reply :: replies) =
      (reply.warning? (buildRequest settings issue).title).toList ++
        filingWarnings settings issues replies := by
  rw [filingWarnings, List.zip_cons_cons, filterMap_cons_toList, filingWarnings]

/-- The ids in a trace are those in the tracker's replies. -/
theorem filterMap_created (t : List Exchange) :
    t.filterMap Exchange.created? = (filingReplies t).filterMap FilingReply.id? := by
  have hEach : ∀ e : Exchange, e.created? = e.filingReply?.bind FilingReply.id? := by
    rintro ⟨r, a⟩
    cases r with
    | createIssue q => obtain ⟨(e | id), _⟩ := a <;> rfl
    | _ => rfl
  rw [filingReplies, List.filterMap_filterMap]
  exact congrArg t.filterMap (funext hEach)

/-- The warnings in a trace in which some issues were filed, and nothing else asked. -/
theorem filterMap_warning (h : requests t = issues.map (filing settings)) :
    (filingReplies t).length = issues.length ∧
      t.filterMap Exchange.warning? = filingWarnings settings issues (filingReplies t) := by
  induction issues generalizing t with
  | nil =>
    obtain rfl := List.map_eq_nil_iff.mp h
    exact ⟨rfl, rfl⟩
  | cons issue rest ih =>
    obtain ⟨⟨r, a⟩, t, rfl, hr, ht⟩ := List.map_eq_cons_iff.mp h
    obtain rfl : r = filing settings issue := hr
    obtain ⟨hLength, hWarnings⟩ := ih ht
    have hReplies : filingReplies (⟨_, a⟩ :: t) = a.filing :: filingReplies t := rfl
    have hWarning : Exchange.warning? ⟨_, a⟩ =
        a.filing.warning? (buildRequest settings issue).title := by
      obtain ⟨(e | id), _⟩ := a <;> rfl
    rw [hReplies, filingWarnings_cons, filterMap_cons_toList, hWarnings, hWarning]
    exact ⟨congrArg (· + 1) hLength, rfl⟩

/-- No issue is lost among the ids, the warnings and the silent replies. -/
theorem length_filing {replies : List FilingReply} (h : replies.length = issues.length) :
    issues.length = (replies.filterMap FilingReply.id?).length +
      (filingWarnings settings issues replies).length + replies.countP FilingReply.isSilent := by
  induction replies generalizing issues with
  | nil => simp [filingWarnings, ← h]
  | cons reply replies ih =>
    obtain ⟨issue, rest, rfl⟩ := List.exists_cons_of_length_eq_add_one h.symm
    have hLength : replies.length = rest.length := by simpa using h
    have hRest := ih hLength
    have hOne := FilingReply.one_of_three (buildRequest settings issue).title reply
    rw [filterMap_cons_toList, filingWarnings_cons, List.length_append, List.length_append,
      List.length_cons, ← List.singleton_append, List.countP_append]
    omega

-- ---------------------------------------------------------------------------
-- How far a filing gets
-- ---------------------------------------------------------------------------

/-- The tracker is asked to file the first of the issues, each once. -/
theorem Publishes.asked {r : Except RunError Publication}
    (h : Publishes settings i p issues t r i') :
    requests t = (issues.take t.length).map (filing settings) := by
  obtain ⟨n, hn⟩ := h.requests_eq
  have hLength : t.length = min n issues.length := by
    simpa [requests] using congrArg List.length hn
  rw [hn, hLength, ← List.take_eq_take_min]

/-- A filing that comes to its end has put every issue before the tracker. -/
theorem Publishes.complete (h : Publishes settings i p issues t (.ok p') i') :
    requests t = issues.map (filing settings) := by
  generalize hr : (Except.ok p' : Except RunError Publication) = r at h
  induction h with
  | done => rfl
  | interrupted => cases hr
  | filed others ih => exact congrArg (_ :: ·) (ih hr)

theorem Publishes.of_nil {r : Except RunError Publication}
    (h : Publishes settings i p [] t r i') : t = [] ∧ r = .ok p := by
  cases h
  exact ⟨rfl, rfl⟩

/-- **A filing is interrupted** exactly if the token is tripped before the last issue. -/
theorem Publishes.interrupted_iff {r : Except RunError Publication}
    (h : Publishes settings i p issues t r i') : r = .error .interrupted ↔
      issues ≠ [] ∧ (i = true ∨ tripped (t.take (issues.length - 1)) = true) := by
  induction h with
  | done => simp
  | interrupted => simp
  | @filed p issue rest a t r i' others ih =>
    cases rest with
    | nil =>
      obtain ⟨rfl, rfl⟩ := others.of_nil
      simp
    | cons next rest => simpa using ih

/-- The filing of a list of issues: what the tracker was asked, and what came of it. -/
structure Filed (settings : TrackerSettings) (issues : List DiscoveredIssue) (started : Bool)
    (t : List Exchange) (r : Except RunError Publication) : Prop where
  /-- The tracker is asked to file the first of the issues, in order, each once. -/
  asked : requests t = (issues.take t.length).map (filing settings)
  /-- Nothing but an interrupt ends a filing early, -/
  error_eq : ∀ e, r = .error e → e = .interrupted
  /-- and only one that comes before the last issue is put before the tracker. -/
  interrupted_iff : r = .error .interrupted ↔
    issues ≠ [] ∧ (started = true ∨ tripped (t.take (issues.length - 1)) = true)
  /-- Otherwise every issue is put before the tracker, and has a reply. -/
  complete : ∀ p, r = .ok p → requests t = issues.map (filing settings) ∧
    (filingReplies t).length = issues.length
  /-- The ids are those that the replies bring, in order. -/
  created : ∀ p, r = .ok p → p.created = (filingReplies t).filterMap FilingReply.id?
  /-- The warnings are those that the refusals leave, in order, each under its own title. -/
  warnings : ∀ p, r = .ok p → p.warnings = filingWarnings settings issues (filingReplies t)
  /-- Every issue is accounted for. -/
  accounted : ∀ p, r = .ok p → issues.length = p.created.length + p.warnings.length +
    (filingReplies t).countP FilingReply.isSilent

/-- What comes of a filing that began with nothing published. -/
theorem Publishes.isFiled {r : Except RunError Publication}
    (h : Publishes settings i {} issues t r i') :
    Filed settings issues i t r where
  asked := h.asked
  error_eq := by
    rintro e rfl
    exact h.error_eq.1
  interrupted_iff := h.interrupted_iff
  complete := by
    rintro p rfl
    exact ⟨h.complete, (filterMap_warning h.complete).1⟩
  created := by
    rintro p rfl
    rw [h.account.1, filterMap_created]
    rfl
  warnings := by
    rintro p rfl
    rw [h.account.2, (filterMap_warning h.complete).2]
    rfl
  accounted := by
    rintro p rfl
    obtain ⟨hReplies, hWarnings⟩ := filterMap_warning h.complete
    rw [h.account.1, h.account.2, filterMap_created, hWarnings]
    exact length_filing hReplies

/-- **Every issue is filed for itself**, whatever the tracker replies to the others. -/
theorem publish_files {σ : Type} (script : Script σ) (settings : TrackerSettings)
    (issues : List DiscoveredIssue) (started : Bool) (s : σ) :
    let ran := (publish settings started {} issues).run script s
    Filed settings issues started ran.2.1 ran.1.1 :=
  (publish_leads (run_leads script _ s)).isFiled

/-- The last of three issues is refused as the token is tripped; it is filed nevertheless. -/
theorem publish_files_lastKilled :
    let issues : List DiscoveredIssue := [{ title := some "a" }, { title := some " " }, {}]
    let s : Rehearsal :=
      { issues := [⟨false, none, some "vc-1"⟩, ⟨false, none, none⟩,
          ⟨true, some ⟨["create issue", "killed"]⟩, none⟩] }
    let ran := (publish {} false {} issues).run Rehearsal.answer s
    Filed {} issues false ran.2.1 ran.1.1 ∧ tripped ran.2.1 = true ∧
      ran.1.1 = .ok ⟨["vc-1"], [.issueCreationFailed "Discovered issue" "create issue: killed"]⟩ :=
  ⟨publish_files Rehearsal.answer {} _ false _, rfl, rfl⟩

end Errand
