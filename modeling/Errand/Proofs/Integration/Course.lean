import Errand.Integrate
import Errand.Proofs.Dialogue

/-!
# Errand — the courses of an integration

An integration passes up to five **checkpoints**, at each of which it looks at
the cancel token. From a checkpoint it goes on to the next one, or it gives up
because of the token, or the next step fails, or it is over. Everything said
of integrations elsewhere is said of these few cases.

* `Checkpoint`     — the places where the token is looked at.
* `Reaches`        — a checkpoint is reached through some exchanges.
* `Fails`          — the step after a checkpoint fails.
* `Undoes`, `Restores`, `Pushes` — the way back, its last step, and the push.
* `Ends`           — an integration is over.
* `integrate_ends` — every course of an integration ends in one of these ways.
-/

namespace Errand

/-- The branch that has to be returned to from a stage. -/
def Stage.origin? : Stage → Option String
  | .onIntegration b | .mergeAttempted b => some b
  | .clean | .staged | .committed _ => none

namespace Committer

open Dialogue (Exchange)

variable {settings : GitSettings} {description : String} {c d d' : Committer}
  {t u : List Exchange}

-- ---------------------------------------------------------------------------
-- A single question
-- ---------------------------------------------------------------------------

/-- The committer after an answer: it takes note of an interrupt. -/
def note (c : Committer) {r : Request} (a : Answer r) : Committer :=
  { c with interrupted := c.interrupted || a.interrupted }

@[simp]
theorem note_stage {r : Request} (a : Answer r) : (c.note a).stage = c.stage := rfl

@[simp]
theorem note_interrupted {r : Request} (a : Answer r) :
    (c.note a).interrupted = (c.interrupted || a.interrupted) := rfl

theorem ask_bind_leads_iff {α : Type} {r : Request} {f : r.Reply × Committer → Dialogue α}
    {v : α} :
    (c.ask r >>= f).Leads t v ↔ ∃ a u, t = ⟨r, a⟩ :: u ∧ (f (a.reply, c.note a)).Leads u v := by
  unfold ask
  rw [Dialogue.ask_bind, Dialogue.leads_ask_iff]
  exact Iff.rfl

-- ---------------------------------------------------------------------------
-- The way back
-- ---------------------------------------------------------------------------

/-- The working branch is checked out again, or that fails with a warning. -/
inductive Restores (branch : String) (c : Committer) :
    List Exchange → Option Warning → Committer → Prop
  | back {a : Answer (.checkout branch)} (ok : a.reply = .ok ()) :
      Restores branch c [⟨.checkout branch, a⟩] none { c.note a with stage := .committed branch }
  | stuck {a : Answer (.checkout branch)} {e : Failure} (error : a.reply = .error e) :
      Restores branch c [⟨.checkout branch, a⟩] (some (.branchNotRestored branch e.text))
        (c.note a)

/-- Back to the working branch, as far as the stage requires. -/
inductive Undoes : Committer → List Exchange → Committer → Prop
  | settled {c : Committer} (h : c.stage.origin? = none) : Undoes c [] c
  | leave {c d : Committer} {b : String} {t : List Exchange} {w : Option Warning}
      (h : c.stage = .onIntegration b) (restored : Restores b c t w d) : Undoes c t d
  | abort {c d : Committer} {b : String} {a : Answer .abortMerge} {t : List Exchange}
      {w : Option Warning} (h : c.stage = .mergeAttempted b)
      (restored : Restores b (c.note a) t w d) : Undoes c (⟨.abortMerge, a⟩ :: t) d

/-- The integration branch is pushed, if it is to be. -/
inductive Pushes (settings : GitSettings) (c : Committer) :
    List Exchange → List Warning → Committer → Prop
  | off (h : settings.push = false) : Pushes settings c [] [] c
  | accepted {a : Answer (.push settings.remote settings.integrationBranch)}
      (h : settings.push = true) (ok : a.reply = .ok ()) :
      Pushes settings c [⟨.push settings.remote settings.integrationBranch, a⟩] [] (c.note a)
  | refused {a : Answer (.push settings.remote settings.integrationBranch)} {e : Failure}
      (h : settings.push = true) (error : a.reply = .error e) :
      Pushes settings c [⟨.push settings.remote settings.integrationBranch, a⟩]
        [.pushFailed settings.integrationBranch e.text] (c.note a)

theorem restore_leads {b : String} {w : Option Warning}
    (h : (c.restore b).Leads t (w, d)) : Restores b c t w d := by
  unfold restore at h
  rw [ask_bind_leads_iff] at h
  obtain ⟨a, u, rfl, h⟩ := h
  cases hr : a.reply with
  | ok x =>
    rw [hr] at h
    obtain ⟨rfl, hv⟩ := Dialogue.leads_pure_iff.mp h
    cases hv
    exact .back hr
  | error e =>
    rw [hr] at h
    obtain ⟨rfl, hv⟩ := Dialogue.leads_pure_iff.mp h
    cases hv
    exact .stuck hr

theorem compensate_leads (h : c.compensate.Leads t d) : Undoes c t d := by
  unfold compensate at h
  split at h
  case h_4 b hs =>
    rw [Dialogue.leads_bind_iff] at h
    obtain ⟨u, ⟨w, d₁⟩, v, rfl, hr, hd⟩ := h
    obtain ⟨rfl, rfl⟩ := Dialogue.leads_pure_iff.mp hd
    rw [List.append_nil]
    exact .leave hs (restore_leads hr)
  case h_5 b hs =>
    rw [ask_bind_leads_iff] at h
    obtain ⟨a, u, rfl, h⟩ := h
    rw [Dialogue.leads_bind_iff] at h
    obtain ⟨u, ⟨w, d₁⟩, v, rfl, hr, hd⟩ := h
    obtain ⟨rfl, rfl⟩ := Dialogue.leads_pure_iff.mp hd
    rw [List.append_nil]
    exact .abort hs (restore_leads hr)
  all_goals
    obtain ⟨rfl, rfl⟩ := Dialogue.leads_pure_iff.mp h
    exact .settled (by simp [*, Stage.origin?])

theorem push_leads {ws : List Warning} (h : (push settings c).Leads t (ws, d)) :
    Pushes settings c t ws d := by
  unfold push at h
  split at h
  case isTrue hp =>
    rw [ask_bind_leads_iff] at h
    obtain ⟨a, u, rfl, h⟩ := h
    cases hr : a.reply with
    | ok x =>
      rw [hr] at h
      obtain ⟨rfl, hv⟩ := Dialogue.leads_pure_iff.mp h
      cases hv
      exact .accepted hp hr
    | error e =>
      rw [hr] at h
      obtain ⟨rfl, hv⟩ := Dialogue.leads_pure_iff.mp h
      cases hv
      exact .refused hp hr
  case isFalse hp =>
    obtain ⟨rfl, hv⟩ := Dialogue.leads_pure_iff.mp h
    cases hv
    exact .off (by simpa using hp)

-- ---------------------------------------------------------------------------
-- The way forward
-- ---------------------------------------------------------------------------

/-- Where an integration looks at the cancel token. -/
inductive Checkpoint where
  | start
  | staged
  /-- Committed on this working branch. -/
  | committed (branch : String)
  /-- On the integration branch, before the merge of this one. -/
  | onIntegration (branch : String)
  /-- This branch is merged, and the push is next. -/
  | merged (branch : String)

/-- The stage at a checkpoint; at the first one it is what an earlier call left. -/
def Checkpoint.stage (left : Stage) : Checkpoint → Stage
  | .start => left
  | .staged => .staged
  | .committed b => .committed b
  | .onIntegration b => .onIntegration b
  | .merged b => .mergeAttempted b

/--
A checkpoint is reached through some exchanges. Only with the token not
tripped does an integration leave a checkpoint for the next one; it does not
look at the token between the commit and the question for the branch.
-/
inductive Reaches (settings : GitSettings) (description : String) (c : Committer) :
    Checkpoint → List Exchange → Committer → Prop
  | start : Reaches settings description c .start [] c
  | staged {t : List Exchange} {d : Committer} {a : Answer .stageAll}
      (before : Reaches settings description c .start t d) (go : d.interrupted = false)
      (ok : a.reply = .ok ()) :
      Reaches settings description c .staged (t ++ [⟨.stageAll, a⟩])
        { d.note a with stage := .staged }
  | committed {t : List Exchange} {d : Committer} {b : String}
      {a₁ : Answer (.commit (commitMessage settings.commitLead description))}
      {a₂ : Answer .currentBranch}
      (before : Reaches settings description c .staged t d) (go : d.interrupted = false)
      (ok : a₁.reply = .ok .committed) (named : a₂.reply = .ok b) :
      Reaches settings description c (.committed b) (t ++ [⟨_, a₁⟩, ⟨.currentBranch, a₂⟩])
        { (d.note a₁).note a₂ with stage := .committed b }
  | onIntegration {t : List Exchange} {d : Committer} {b : String}
      {a : Answer (.checkout settings.integrationBranch)}
      (before : Reaches settings description c (.committed b) t d) (go : d.interrupted = false)
      (apart : b ≠ settings.integrationBranch) (ok : a.reply = .ok ()) :
      Reaches settings description c (.onIntegration b) (t ++ [⟨_, a⟩])
        { d.note a with stage := .onIntegration b }
  | merged {t : List Exchange} {d : Committer} {b : String} {a : Answer (.merge b)}
      (before : Reaches settings description c (.onIntegration b) t d)
      (go : d.interrupted = false) (ok : a.reply = .ok .merged) :
      Reaches settings description c (.merged b) (t ++ [⟨.merge b, a⟩])
        { d.note a with stage := .mergeAttempted b }

theorem Reaches.stage_eq {p : Checkpoint} (h : Reaches settings description c p t d) :
    d.stage = p.stage c.stage := by
  cases h <;> rfl

/-- The step after a checkpoint fails: its exchanges, the committer then, and the detail. -/
inductive Fails (settings : GitSettings) (description : String) (d : Committer) :
    Checkpoint → List Exchange → Committer → String → Prop
  | stage {a : Answer .stageAll} {e : Failure} (error : a.reply = .error e) :
      Fails settings description d .start [⟨.stageAll, a⟩] (d.note a)
        ("stage changes: " ++ e.text)
  | commit {a : Answer (.commit (commitMessage settings.commitLead description))} {e : Failure}
      (error : a.reply = .error e) :
      Fails settings description d .staged [⟨_, a⟩] (d.note a) e.text
  | locate {a₁ : Answer (.commit (commitMessage settings.commitLead description))}
      {a₂ : Answer .currentBranch} {e : Failure} (ok : a₁.reply = .ok .committed)
      (error : a₂.reply = .error e) :
      Fails settings description d .staged [⟨_, a₁⟩, ⟨.currentBranch, a₂⟩]
        ((d.note a₁).note a₂) ("read current branch: " ++ e.text)
  | switch {b : String} {a : Answer (.checkout settings.integrationBranch)} {e : Failure}
      (apart : b ≠ settings.integrationBranch) (error : a.reply = .error e) :
      Fails settings description d (.committed b) [⟨_, a⟩] (d.note a)
        ("switch to " ++ settings.integrationBranch ++ ": " ++ e.text)
  | merge {b : String} {a : Answer (.merge b)} {e : Failure} (error : a.reply = .error e) :
      Fails settings description d (.onIntegration b) [⟨.merge b, a⟩]
        { d.note a with stage := .mergeAttempted b }
        ("merge " ++ b ++ " into " ++ settings.integrationBranch ++ ": " ++ e.text)

/-- An integration of some modified files is over. -/
inductive Ends (settings : GitSettings) (description : String) (c : Committer) :
    List Exchange → Except RunError Integration → Committer → Prop
  | interrupted {p : Checkpoint} {t u : List Exchange} {d d' : Committer}
      (reached : Reaches settings description c p t d) (stop : d.interrupted = true)
      (undone : Undoes d u d') :
      Ends settings description c (t ++ u) (.error .interrupted) d'
  | failed {p : Checkpoint} {t x u : List Exchange} {d d₁ d' : Committer} {detail : String}
      (reached : Reaches settings description c p t d) (go : d.interrupted = false)
      (fails : Fails settings description d p x d₁ detail) (undone : Undoes d₁ u d') :
      Ends settings description c (t ++ (x ++ u))
        (.error (if d'.interrupted then .interrupted else .commitFailed detail)) d'
  | nothing {t : List Exchange} {d : Committer}
      {a : Answer (.commit (commitMessage settings.commitLead description))}
      (reached : Reaches settings description c .staged t d) (go : d.interrupted = false)
      (empty : a.reply = .ok .nothingToCommit) :
      Ends settings description c (t ++ [⟨_, a⟩]) (.ok ⟨true, []⟩) (d.note a)
  | already {t u : List Exchange} {d d' : Committer} {ws : List Warning}
      (reached : Reaches settings description c (.committed settings.integrationBranch) t d)
      (go : d.interrupted = false) (pushed : Pushes settings d u ws d') :
      Ends settings description c (t ++ u) (.ok ⟨true, ws⟩) d'
  | conflict {t u : List Exchange} {d d' : Committer} {b detail : String}
      {a₁ : Answer (.merge b)} {a₂ : Answer .abortMerge} {w : Option Warning}
      (reached : Reaches settings description c (.onIntegration b) t d)
      (go : d.interrupted = false) (conflict : a₁.reply = .ok (.conflict detail))
      (restored : Restores b { (d.note a₁).note a₂ with stage := .mergeAttempted b } u w d') :
      Ends settings description c (t ++ (⟨.merge b, a₁⟩ :: ⟨.abortMerge, a₂⟩ :: u))
        (.ok ⟨false, [.mergeConflict b detail] ++ w.toList⟩) d'
  | merged {t u v : List Exchange} {d d₁ d' : Committer} {b : String} {ws : List Warning}
      {w : Option Warning} (reached : Reaches settings description c (.merged b) t d)
      (go : d.interrupted = false) (pushed : Pushes settings d u ws d₁)
      (restored : Restores b d₁ v w d') :
      Ends settings description c (t ++ (u ++ v)) (.ok ⟨true, ws ++ w.toList⟩) d'

-- ---------------------------------------------------------------------------
-- Every course ends in one of these ways
-- ---------------------------------------------------------------------------

variable {b : String} {r : Except RunError Integration}

theorem giveUp_leads (h : c.giveUp.Leads t (r, d)) : r = .error .interrupted ∧ Undoes c t d := by
  unfold giveUp at h
  rw [Dialogue.leads_bind_iff] at h
  obtain ⟨u, d₁, v, rfl, hu, hv⟩ := h
  obtain ⟨rfl, hv⟩ := Dialogue.leads_pure_iff.mp hv
  cases hv
  rw [List.append_nil]
  exact ⟨rfl, compensate_leads hu⟩

theorem fail_leads {detail : String} (h : (c.fail detail).Leads t (r, d)) :
    r = .error (if d.interrupted then .interrupted else .commitFailed detail) ∧
      Undoes c t d := by
  unfold fail at h
  rw [Dialogue.leads_bind_iff] at h
  obtain ⟨u, d₁, v, rfl, hu, hv⟩ := h
  split at hv
  all_goals
    obtain ⟨rfl, hv⟩ := Dialogue.leads_pure_iff.mp hv
    cases hv
    rw [List.append_nil]
    exact ⟨by simp [*], compensate_leads hu⟩

theorem conclude_leads {i : Integration} (h : (c.conclude b i).Leads t (r, d)) :
    ∃ w, r = .ok { i with warnings := i.warnings ++ w.toList } ∧ Restores b c t w d := by
  unfold conclude at h
  rw [Dialogue.leads_bind_iff] at h
  obtain ⟨u, ⟨w, d₁⟩, v, rfl, hu, hv⟩ := h
  obtain ⟨rfl, hv⟩ := Dialogue.leads_pure_iff.mp hv
  cases hv
  rw [List.append_nil]
  exact ⟨w, rfl, restore_leads hu⟩

theorem merged_ends (hm : Reaches settings description c (.merged b) t d)
    (h : (if d.interrupted then d.giveUp else do
      let (warnings, d) ← push settings d
      d.conclude b ⟨true, warnings⟩).Leads u (r, d')) :
    Ends settings description c (t ++ u) r d' := by
  split at h
  case isTrue stop =>
    obtain ⟨rfl, hu⟩ := giveUp_leads h
    exact .interrupted hm stop hu
  case isFalse go =>
    rw [Dialogue.leads_bind_iff] at h
    obtain ⟨x, ⟨ws, d₁⟩, v, rfl, hp, hc⟩ := h
    obtain ⟨w, rfl, hr⟩ := conclude_leads hc
    exact .merged hm (by simpa using go) (push_leads hp) hr

theorem mergeFrom_ends (hi : Reaches settings description c (.onIntegration b) t d)
    (h : (mergeFrom settings d b).Leads u (r, d')) :
    Ends settings description c (t ++ u) r d' := by
  unfold mergeFrom at h
  split at h
  case isTrue stop =>
    obtain ⟨rfl, hu⟩ := giveUp_leads h
    exact .interrupted hi stop hu
  case isFalse go =>
    rw [Bool.not_eq_true] at go
    dsimp only at h
    rw [ask_bind_leads_iff] at h
    obtain ⟨a, v, rfl, h⟩ := h
    cases hr : a.reply with
    | error e =>
      rw [hr] at h
      obtain ⟨rfl, hu⟩ := fail_leads h
      exact .failed hi go (.merge hr) hu
    | ok status =>
      rw [hr] at h
      cases status with
      | merged =>
        have := merged_ends (.merged hi go hr) h
        rwa [List.append_assoc] at this
      | conflict detail =>
        dsimp only at h
        rw [ask_bind_leads_iff] at h
        obtain ⟨a₂, v, rfl, h⟩ := h
        obtain ⟨w, rfl, hw⟩ := conclude_leads h
        exact .conflict hi go hr hw

theorem deliver_ends (hc : Reaches settings description c (.committed b) t d)
    (h : (deliver settings d b).Leads u (r, d')) :
    Ends settings description c (t ++ u) r d' := by
  unfold deliver at h
  split at h
  case isTrue stop =>
    obtain ⟨rfl, hu⟩ := giveUp_leads h
    exact .interrupted hc stop hu
  case isFalse go =>
    rw [Bool.not_eq_true] at go
    dsimp only at h
    split at h
    case isTrue hb =>
      subst hb
      rw [Dialogue.leads_bind_iff] at h
      obtain ⟨x, ⟨ws, d₁⟩, v, rfl, hp, hv⟩ := h
      obtain ⟨rfl, hv⟩ := Dialogue.leads_pure_iff.mp hv
      cases hv
      rw [List.append_nil]
      exact .already hc go (push_leads hp)
    case isFalse apart =>
      rw [ask_bind_leads_iff] at h
      obtain ⟨a, v, rfl, h⟩ := h
      cases hr : a.reply with
      | error e =>
        rw [hr] at h
        obtain ⟨rfl, hu⟩ := fail_leads h
        exact .failed hc go (.switch apart hr) hu
      | ok x =>
        rw [hr] at h
        have := mergeFrom_ends (.onIntegration hc go apart hr) h
        rwa [List.append_assoc] at this

theorem record_ends (hs : Reaches settings description c .staged t d)
    (h : (record settings d description).Leads u (r, d')) :
    Ends settings description c (t ++ u) r d' := by
  unfold record at h
  split at h
  case isTrue stop =>
    obtain ⟨rfl, hu⟩ := giveUp_leads h
    exact .interrupted hs stop hu
  case isFalse go =>
    rw [Bool.not_eq_true] at go
    rw [ask_bind_leads_iff] at h
    obtain ⟨a₁, v, rfl, h⟩ := h
    cases hr₁ : a₁.reply with
    | error e =>
      rw [hr₁] at h
      obtain ⟨rfl, hu⟩ := fail_leads h
      exact .failed hs go (.commit hr₁) hu
    | ok status =>
      rw [hr₁] at h
      cases status with
      | nothingToCommit =>
        obtain ⟨rfl, hv⟩ := Dialogue.leads_pure_iff.mp h
        cases hv
        exact .nothing hs go hr₁
      | committed =>
        dsimp only [locate] at h
        rw [ask_bind_leads_iff] at h
        obtain ⟨a₂, v, rfl, h⟩ := h
        cases hr₂ : a₂.reply with
        | error e =>
          rw [hr₂] at h
          obtain ⟨rfl, hu⟩ := fail_leads h
          exact .failed hs go (.locate hr₁ hr₂) hu
        | ok b =>
          rw [hr₂] at h
          have := deliver_ends (.committed hs go hr₁ hr₂) h
          rwa [List.append_assoc] at this

/-- **Every course of an integration ends in one of the ways of `Ends`**, unless
there is nothing to integrate; then nothing is asked. -/
theorem integrate_ends {files : List String}
    (h : (c.integrate settings description files).Leads t (r, d)) :
    (files = [] ∧ t = [] ∧ r = .ok ⟨true, []⟩ ∧ d = c) ∨
      (files ≠ [] ∧ Ends settings description c t r d) := by
  unfold integrate at h
  split at h
  case isTrue hf =>
    obtain ⟨rfl, hv⟩ := Dialogue.leads_pure_iff.mp h
    cases hv
    exact .inl ⟨by simpa using hf, rfl, rfl, rfl⟩
  case isFalse hf =>
    refine .inr ⟨by simpa using hf, ?_⟩
    split at h
    case isTrue stop =>
      obtain ⟨rfl, hu⟩ := giveUp_leads h
      exact .interrupted .start stop hu
    case isFalse go =>
      rw [Bool.not_eq_true] at go
      rw [ask_bind_leads_iff] at h
      obtain ⟨a, v, rfl, h⟩ := h
      cases hr : a.reply with
      | error e =>
        rw [hr] at h
        obtain ⟨rfl, hu⟩ := fail_leads h
        exact .failed .start go (.stage hr) hu
      | ok x =>
        rw [hr] at h
        exact record_ends (.staged .start go hr) h

end Committer

end Errand
