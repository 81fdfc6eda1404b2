import Errand.Proofs.Integration.Course

/-!
# Errand — interrupts of an integration

Once the cancel token is tripped, an integration only winds up: it may still
learn which branch it is on, or it goes back to that branch. And it reports
the interrupt, unless it comes to a result first.

* `WindsUp`, `Quiet`    — what may follow the exchange that trips the token.
* `Ends.interrupted_eq` — a committer knows whether the token is tripped.
* `Ends.quiet`          — after that exchange, a call only winds up.
* `Ends.error_iff`      — an error is the interrupt exactly if the token is tripped.
-/

namespace Errand

namespace Dialogue

variable {integration : String} {past t u : List Exchange} {e : Exchange}

-- ---------------------------------------------------------------------------
-- After the token is tripped
-- ---------------------------------------------------------------------------

/-- The questions of a trace, in order. -/
def requests (t : List Exchange) : List Request := t.map Exchange.request

/-- In this trace the question for the branch was answered with `b`. -/
def Names (t : List Exchange) (b : String) : Prop :=
  ∃ a : Answer .currentBranch, ⟨.currentBranch, a⟩ ∈ t ∧ a.reply = .ok b

/--
What comes `after` the token was tripped only winds a run up: at most the
question for the branch, or else at most the end of a merge and a checkout of
a branch that was named `before`, other than the integration branch.
-/
def WindsUp (integration : String) (before after : List Exchange) : Prop :=
  (requests after).Sublist [.currentBranch] ∨
    ∃ b, Names before b ∧ b ≠ integration ∧
      (requests after).Sublist [.abortMerge, .checkout b]

/-- Whatever comes after an exchange that trips the token only winds up. -/
def Quiet (integration : String) (past t : List Exchange) : Prop :=
  ∀ before e after, t = before ++ e :: after → e.trips = true →
    WindsUp integration (past ++ before) after

theorem Names.append {b : String} (h : Names t b) : Names (t ++ u) b := by
  obtain ⟨a, ha, hb⟩ := h
  exact ⟨a, List.mem_append_left _ ha, hb⟩

theorem windsUp_nil : WindsUp integration past [] := .inl (List.nil_sublist _)

/-- To know more and to ask less is still to wind up. -/
theorem WindsUp.mono {before after : List Exchange} (h : WindsUp integration past t)
    (hBefore : past ⊆ before) (hAfter : after.Sublist t) : WindsUp integration before after := by
  have hSub : (requests after).Sublist (requests t) := hAfter.map _
  rcases h with h | ⟨b, ⟨a, ha, hb⟩, apart, h⟩
  · exact .inl (hSub.trans h)
  · exact .inr ⟨b, ⟨a, hBefore ha, hb⟩, apart, hSub.trans h⟩

theorem quiet_nil : Quiet integration past [] := by
  intro before e after h
  simp at h

/-- Nothing has to be quiet as long as the token is not tripped. -/
theorem quiet_of_not_tripped (h : tripped t = false) : Quiet integration past t := by
  rintro before e after rfl hTrips
  simp [hTrips] at h

/-- A course that winds up anyway may begin with any exchange. -/
theorem WindsUp.quiet_cons (h : WindsUp integration past u) :
    Quiet integration past (e :: u) := by
  intro before x after hSplit hTrips
  rcases List.cons_eq_append_iff.mp hSplit with ⟨rfl, hx⟩ | ⟨rest, rfl, rfl⟩
  · cases hx
    rw [List.append_nil]
    exact h
  · refine h.mono (List.subset_append_left _ _) ?_
    exact (List.sublist_cons_self x after).trans (List.sublist_append_right rest _)

/-- A quiet course may go on, quietly, unless the token was tripped. -/
theorem Quiet.append (ht : Quiet integration past t) (hu : Quiet integration (past ++ t) u)
    (h : tripped t = true → u = []) : Quiet integration past (t ++ u) := by
  intro before e after hSplit hTrips
  rcases List.append_eq_append_iff.mp hSplit with ⟨rest, rfl, hRest⟩ | ⟨rest, rfl, hRest⟩
  · rw [← List.append_assoc]
    exact hu rest e after hRest hTrips
  · rcases List.cons_eq_append_iff.mp hRest with ⟨rfl, hx⟩ | ⟨tail, rfl, rfl⟩
    · rw [List.append_nil] at hu
      have hFirst := hu [] e after hx hTrips
      rwa [List.append_nil] at hFirst
    · -- the token is tripped in the first part, so there is no second
      rw [h (by simp [hTrips]), List.append_nil]
      exact ht before e tail rfl hTrips

/-- What is quiet stays so after whatever else. -/
theorem Quiet.mono {before : List Exchange} (h : Quiet integration past t)
    (hBefore : past ⊆ before) : Quiet integration before t := by
  intro start e after hSplit hTrips
  exact (h start e after hSplit hTrips).mono
    (List.append_subset.mpr ⟨List.Subset.trans hBefore (List.subset_append_left _ _),
      List.subset_append_right _ _⟩) (List.Sublist.refl _)

end Dialogue

/-- The questions that lead back to the working branch from a stage. -/
def Stage.wayBack : Stage → List Request
  | .clean | .staged | .committed _ => []
  | .onIntegration b => [.checkout b]
  | .mergeAttempted b => [.abortMerge, .checkout b]

theorem Stage.wayBack_eq_nil {s : Stage} (h : s.origin? = none) : s.wayBack = [] := by
  cases s with
  | clean | staged | committed => rfl
  | onIntegration | mergeAttempted => cases h

namespace Committer

open Dialogue

variable {settings : GitSettings} {description integration b : String} {c d d' : Committer}
  {p : Checkpoint} {t u : List Exchange} {w : Option Warning}

-- ---------------------------------------------------------------------------
-- What a committer knows of the token
-- ---------------------------------------------------------------------------

theorem Restores.interrupted_eq (h : Restores b c t w d) :
    d.interrupted = (c.interrupted || tripped t) := by
  cases h <;> simp

theorem Undoes.interrupted_eq (h : Undoes c t d) :
    d.interrupted = (c.interrupted || tripped t) := by
  cases h with
  | settled h => simp
  | leave h restored => exact restored.interrupted_eq
  | abort h restored => simp [restored.interrupted_eq, Bool.or_assoc]

theorem Pushes.interrupted_eq {ws : List Warning} (h : Pushes settings c t ws d) :
    d.interrupted = (c.interrupted || tripped t) := by
  cases h <;> simp

theorem Reaches.interrupted_eq (h : Reaches settings description c p t d) :
    d.interrupted = (c.interrupted || tripped t) := by
  induction h with
  | start => simp
  | _ => simp_all

theorem Fails.interrupted_eq {x : List Exchange} {detail : String}
    (h : Fails settings description d p x d' detail) :
    d'.interrupted = (d.interrupted || tripped x) := by
  cases h <;> simp [Bool.or_assoc]

/-- **A committer knows whether the token is tripped**, however a call ends. -/
theorem Ends.interrupted_eq {r : Except RunError Integration}
    (h : Ends settings description c t r d) :
    d.interrupted = (c.interrupted || tripped t) := by
  cases h with
  | interrupted reached stop undone =>
    rw [undone.interrupted_eq, reached.interrupted_eq, tripped_append, Bool.or_assoc]
  | failed reached go fails undone =>
    rw [undone.interrupted_eq, fails.interrupted_eq, reached.interrupted_eq, tripped_append,
      tripped_append, Bool.or_assoc, Bool.or_assoc]
  | nothing reached go empty => simp [reached.interrupted_eq, Bool.or_assoc]
  | already reached go pushed =>
    rw [pushed.interrupted_eq, reached.interrupted_eq, tripped_append, Bool.or_assoc]
  | conflict reached go conflict restored =>
    simp [restored.interrupted_eq, reached.interrupted_eq, Bool.or_assoc]
  | merged reached go pushed restored =>
    rw [restored.interrupted_eq, pushed.interrupted_eq, reached.interrupted_eq, tripped_append,
      tripped_append, Bool.or_assoc, Bool.or_assoc]

/-- An error is the interrupt exactly if the token is tripped, and else a failed commit. -/
theorem Ends.error_iff {e : RunError} (h : Ends settings description c t (.error e) d) :
    (e = .interrupted ↔ d.interrupted = true) ∧
      (e ≠ .interrupted → ∃ detail, e = .commitFailed detail) := by
  cases h with
  | interrupted reached stop undone =>
    have hStill : d.interrupted = true := by simp [undone.interrupted_eq, stop]
    simp [hStill]
  | failed reached go fails undone =>
    cases hd : d.interrupted <;> simp

/-- With the token tripped beforehand, the first checkpoint is as far as a call comes. -/
theorem Reaches.eq_start (h : Reaches settings description c p t d)
    (hc : c.interrupted = true) : p = .start ∧ t = [] ∧ d = c := by
  cases h with
  | start => exact ⟨rfl, rfl, rfl⟩
  | staged before go | committed before go | onIntegration before go | merged before go =>
    rw [before.interrupted_eq, hc] at go
    cases go

-- ---------------------------------------------------------------------------
-- Quiet after the interrupt
-- ---------------------------------------------------------------------------

theorem Restores.requests_eq (h : Restores b c t w d) : requests t = [.checkout b] := by
  cases h <;> rfl

theorem Restores.windsUp (h : Restores b c u w d) (hb : Names t b) (apart : b ≠ integration) :
    WindsUp integration t u :=
  .inr ⟨b, hb, apart, by simp [h.requests_eq]⟩

theorem Restores.windsUp_cons {a : Answer .abortMerge} (h : Restores b c u w d)
    (hb : Names t b) (apart : b ≠ integration) :
    WindsUp integration t (⟨.abortMerge, a⟩ :: u) := by
  have hRequests : requests (⟨.abortMerge, a⟩ :: u) = [.abortMerge, .checkout b] :=
    congrArg (Request.abortMerge :: ·) h.requests_eq
  exact .inr ⟨b, hb, apart, hRequests ▸ List.Sublist.refl _⟩

/-- The questions of a compensation, as the stage requires them. -/
theorem Undoes.requests_eq (h : Undoes c t d) : requests t = c.stage.wayBack := by
  cases h with
  | settled h => exact (Stage.wayBack_eq_nil h).symm
  | leave h restored => rw [h, restored.requests_eq, Stage.wayBack]
  | abort h restored =>
    rw [h]
    exact congrArg (Request.abortMerge :: ·) restored.requests_eq

theorem Undoes.eq_nil (h : Undoes c t d) (hs : c.stage.origin? = none) : t = [] := by
  cases h with
  | settled h => rfl
  | leave h restored => simp [h, Stage.origin?] at hs
  | abort h restored => simp [h, Stage.origin?] at hs

/-- Compensation winds a call up, if the branch to return to was named. -/
theorem Undoes.windsUp (h : Undoes c u d)
    (hb : ∀ b, c.stage.origin? = some b → Names t b ∧ b ≠ integration) :
    WindsUp integration t u := by
  cases h with
  | settled h => exact windsUp_nil
  | leave h restored =>
    obtain ⟨hNames, apart⟩ := hb _ (congrArg Stage.origin? h)
    exact restored.windsUp hNames apart
  | abort h restored =>
    obtain ⟨hNames, apart⟩ := hb _ (congrArg Stage.origin? h)
    exact restored.windsUp_cons hNames apart

theorem Reaches.names (h : Reaches settings description c (.committed b) t d) : Names t b := by
  cases h with
  | committed before go ok named => exact ⟨_, by simp, named⟩

theorem Reaches.names_onIntegration
    (h : Reaches settings description c (.onIntegration b) t d) :
    Names t b ∧ b ≠ settings.integrationBranch := by
  cases h with
  | onIntegration before go apart ok => exact ⟨before.names.append, apart⟩

theorem Reaches.names_merged (h : Reaches settings description c (.merged b) t d) :
    Names t b ∧ b ≠ settings.integrationBranch := by
  cases h with
  | merged before go ok =>
    obtain ⟨hNames, apart⟩ := before.names_onIntegration
    exact ⟨hNames.append, apart⟩

/-- With the token tripped beforehand, a committer with no way to go back asks nothing. -/
theorem Ends.silent {r : Except RunError Integration} (h : Ends settings description c t r d)
    (hf : c.stage.origin? = none) (hc : c.interrupted = true) : t = [] := by
  cases h with
  | interrupted reached stop undone =>
    obtain ⟨-, rfl, rfl⟩ := reached.eq_start hc
    exact undone.eq_nil hf
  | failed reached go | nothing reached go | already reached go | conflict reached go
  | merged reached go =>
    rw [reached.interrupted_eq, hc] at go
    cases go

/-- One more exchange after a checkpoint that was left, and then the winding up. -/
theorem Reaches.quiet_append {e : Exchange} (h : Reaches settings description c p t d)
    (go : d.interrupted = false) (hu : WindsUp integration t u) :
    Quiet integration [] (t ++ e :: u) := by
  have hNot : tripped t = false := by
    rw [h.interrupted_eq, Bool.or_eq_false_iff] at go
    exact go.2
  refine (quiet_of_not_tripped hNot).append hu.quiet_cons ?_
  simp [hNot]

/-- A call that gives up at a checkpoint was interrupted on the way from the one before. -/
theorem Reaches.quiet_undone (h : Reaches settings description c p t d)
    (hf : c.stage.origin? = none) (undone : Undoes d u d') :
    Quiet settings.integrationBranch [] (t ++ u) := by
  cases h with
  | start =>
    rw [undone.eq_nil hf]
    exact quiet_nil
  | staged before go ok =>
    rw [undone.eq_nil rfl, List.append_nil]
    exact before.quiet_append go windsUp_nil
  | committed before go ok named =>
    rw [undone.eq_nil rfl, List.append_nil]
    exact before.quiet_append go (.inl (List.Sublist.refl _))
  | onIntegration before go apart ok =>
    rw [List.append_assoc]
    refine before.quiet_append go (undone.windsUp fun b hb => ?_)
    cases hb
    exact ⟨before.names, apart⟩
  | merged before go ok =>
    rw [List.append_assoc]
    refine before.quiet_append go (undone.windsUp fun b hb => ?_)
    cases hb
    exact before.names_onIntegration

/-- Whatever comes after the first exchange of a step that fails winds the call up. -/
theorem Fails.windsUp {x : List Exchange} {d'' : Committer} {detail : String}
    (h : Fails settings description d p x d' detail)
    (reached : Reaches settings description c p t d) (hf : c.stage.origin? = none)
    (undone : Undoes d' u d'') :
    ∃ e v, x ++ u = e :: v ∧ WindsUp settings.integrationBranch t v := by
  have hStage : d.stage = p.stage c.stage := reached.stage_eq
  cases h with
  | stage error =>
    rw [undone.eq_nil (by rw [note_stage, hStage]; exact hf)]
    exact ⟨_, _, rfl, windsUp_nil⟩
  | commit error | switch apart error =>
    rw [undone.eq_nil (by rw [note_stage, hStage]; rfl)]
    exact ⟨_, _, rfl, windsUp_nil⟩
  | locate ok error =>
    -- the token is not looked at between the commit and the question for the branch
    rw [undone.eq_nil (by rw [note_stage, note_stage, hStage]; rfl)]
    exact ⟨_, _, rfl, .inl (List.Sublist.refl _)⟩
  | merge error =>
    refine ⟨_, _, rfl, undone.windsUp fun b hb => ?_⟩
    cases hb
    exact reached.names_onIntegration

/-- **After the exchange that trips the token, a call only winds up**, however it ends. -/
theorem Ends.quiet {r : Except RunError Integration} (h : Ends settings description c t r d)
    (hf : c.stage.origin? = none) : Quiet settings.integrationBranch [] t := by
  cases h with
  | interrupted reached stop undone => exact reached.quiet_undone hf undone
  | failed reached go fails undone =>
    obtain ⟨e, v, hSplit, hWindsUp⟩ := fails.windsUp reached hf undone
    rw [hSplit]
    exact reached.quiet_append go hWindsUp
  | nothing reached go empty => exact reached.quiet_append go windsUp_nil
  | already reached go pushed =>
    cases pushed with
    | off h => exact reached.quiet_undone hf (.settled (by rw [reached.stage_eq]; rfl))
    | accepted h ok | refused h error => exact reached.quiet_append go windsUp_nil
  | conflict reached go conflict restored =>
    obtain ⟨hNames, apart⟩ := reached.names_onIntegration
    exact reached.quiet_append go (restored.windsUp_cons hNames apart)
  | merged reached go pushed restored =>
    obtain ⟨hNames, apart⟩ := reached.names_merged
    cases pushed with
    | off h => cases restored <;> exact reached.quiet_append go windsUp_nil
    | accepted h ok | refused h error =>
      exact reached.quiet_append go (restored.windsUp hNames apart)

-- ---------------------------------------------------------------------------
-- A whole call
-- ---------------------------------------------------------------------------

/-- The error of a call, whatever the committer went through before: the
interrupt exactly if the token is tripped when the call is over. -/
theorem integrate_error_iff {files : List String} {e : RunError}
    (h : (integrate settings c description files).Leads t (.error e, d)) :
    (e = .interrupted ↔ (c.interrupted || tripped t) = true) ∧
      (e ≠ .interrupted → ∃ detail, e = .commitFailed detail) := by
  rcases integrate_ends h with ⟨-, -, hr, -⟩ | ⟨-, hEnds⟩
  · cases hr
  · rw [← hEnds.interrupted_eq]
    exact hEnds.error_iff

end Committer

end Errand
