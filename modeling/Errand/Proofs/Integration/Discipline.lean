import Errand.Rehearsal
import Errand.Proofs.Integration.Interrupt

/-!
# Errand — the questions of an integration

An integration asks its questions along one route, each at most once and each only
if all before it were answered with success. From wherever it leaves the route it
asks its way back, and the way back depends on how far it came: a merge that was
begun and did not go through is ended, and a working branch that was left is
checked out again, as the very last question.

* `Exchange.succeeds` — the answer is the one that its question hopes for.
* `route`, `wayBack`  — the questions forward, and those that may follow them.
* `Parts`             — a trace forward along the route, and one back from where it ends.
* `Ends.parts`        — every course of an integration has these two parts.
* `Disciplined`       — the same, as it can be read off the whole trace.
* `integrate_disciplined` — the trace of a call of a new committer, against any script.
-/

namespace Errand

/-- The question is a step forward; it neither ends a merge nor leads back from the
integration branch. -/
def Request.isStep (integration : String) : Request → Bool
  | .abortMerge => false
  | .checkout b => b = integration
  | _ => true

namespace Dialogue

variable {b b' : String} {t u : List Exchange}

/-- The answer is the success that its question hopes for: of a commit, that something
was committed; of a merge, that it went through. -/
def Exchange.succeeds : Exchange → Bool
  | ⟨.invoke _, a⟩ => a.reply.toBool
  | ⟨.createIssue _, a⟩ => a.reply.toBool
  | ⟨.stageAll, a⟩ => a.reply.toBool
  | ⟨.commit _, a⟩ =>
    match a.reply with
    | .ok .committed => true
    | _ => false
  | ⟨.currentBranch, a⟩ => a.reply.toBool
  | ⟨.checkout _, a⟩ => a.reply.toBool
  | ⟨.merge _, a⟩ =>
    match a.reply with
    | .ok .merged => true
    | _ => false
  | ⟨.abortMerge, a⟩ => a.reply.toBool
  | ⟨.push _ _, a⟩ => a.reply.toBool
  | ⟨.send _ _, a⟩ => a.reply.toBool

theorem Exchange.succeeds_merge_iff {a : Answer (.merge b)} :
    Exchange.succeeds ⟨.merge b, a⟩ = true ↔ a.reply = .ok .merged := by
  obtain ⟨(e | _ | detail), interrupted⟩ := a
  · exact ⟨nofun, nofun⟩
  · exact ⟨fun _ => rfl, fun _ => rfl⟩
  · exact ⟨nofun, nofun⟩

@[simp]
theorem requests_nil : requests [] = [] := rfl

@[simp]
theorem requests_cons (e : Exchange) (t : List Exchange) :
    requests (e :: t) = e.request :: requests t := rfl

@[simp]
theorem requests_append (t u : List Exchange) : requests (t ++ u) = requests t ++ requests u :=
  List.map_append

theorem mem_requests {e : Exchange} (h : e ∈ t) : e.request ∈ requests t := List.mem_map_of_mem h

theorem names_append : Names (t ++ u) b ↔ Names t b ∨ Names u b := by
  simp [Names, or_and_right, exists_or]

/-- Where the question for the branch is not asked, no branch is named. -/
theorem not_names (h : .currentBranch ∉ requests t) : ¬ Names t b := by
  rintro ⟨a, ha, -⟩
  exact h (mem_requests ha)

/-- A question that is asked once names one branch. -/
theorem Names.unique (once : (requests t).Nodup) (h : Names t b) (h' : Names t b') : b' = b := by
  obtain ⟨a, ha, hb⟩ := h
  obtain ⟨a', ha', hb'⟩ := h'
  obtain ⟨i, hi⟩ := List.mem_iff_getElem?.mp ha
  obtain ⟨j, hj⟩ := List.mem_iff_getElem?.mp ha'
  have hLength : i < (requests t).length := by
    rw [requests, List.length_map]
    exact (List.getElem?_eq_some_iff.mp hi).1
  have hSame : i = j := (List.getElem?_inj hLength once).mp (by simp [requests, hi, hj])
  subst hSame
  cases hi.symm.trans hj
  rw [hb] at hb'
  exact (Except.ok.inj hb').symm

end Dialogue

namespace Committer

open Dialogue

variable {settings : GitSettings} {description b : String} {c d d' : Committer}
  {p : Checkpoint} {t u x forward back : List Exchange} {w : Option Warning} {ws : List Warning}

-- ---------------------------------------------------------------------------
-- The way forward and the way back
-- ---------------------------------------------------------------------------

/-- The questions up to the one for the working branch. -/
def opening (settings : GitSettings) (description : String) : List Request :=
  [.stageAll, .commit (commitMessage settings.commitLead description), .currentBranch]

/-- The questions behind those: on the integration branch there is nothing to merge. -/
def delivery (settings : GitSettings) (b : String) : List Request :=
  (if b = settings.integrationBranch then []
    else [.checkout settings.integrationBranch, .merge b]) ++
  if settings.push then [.push settings.remote settings.integrationBranch] else []

/-- The steps of an integration whose working branch is `b`, if all of them succeed. -/
def route (settings : GitSettings) (description b : String) : List Request :=
  opening settings description ++ delivery settings b

/-- The questions that end a merge of `b` and check `b` out again. -/
def wayBack (b : String) : List Request := [.abortMerge, .checkout b]

/-- The questions that were asked when a checkpoint is reached. -/
def Checkpoint.way (settings : GitSettings) (description : String) : Checkpoint → List Request
  | .start => []
  | .staged => [.stageAll]
  | .committed _ => opening settings description
  | .onIntegration _ => opening settings description ++ [.checkout settings.integrationBranch]
  | .merged b => opening settings description ++ [.checkout settings.integrationBranch, .merge b]

theorem Reaches.requests_eq (h : Reaches settings description c p t d) :
    requests t = p.way settings description := by
  induction h with
  | start => rfl
  | staged before go ok ih | onIntegration before go apart ok ih | merged before go ok ih
  | committed before go ok named ih => simp [ih, Checkpoint.way, opening]

/-- Whatever was asked on the way to a checkpoint succeeded. -/
theorem Reaches.succeeds (h : Reaches settings description c p t d) :
    ∀ e ∈ t, e.succeeds = true := by
  induction h with
  | start => simp
  | staged before go ok ih | onIntegration before go apart ok ih | merged before go ok ih =>
    simpa [or_imp, forall_and, Exchange.succeeds, ok, Except.toBool] using ih
  | committed before go ok named ih =>
    simpa [or_imp, forall_and, Exchange.succeeds, ok, named, Except.toBool] using ih

theorem Pushes.requests_eq (h : Pushes settings c t ws d) :
    requests t =
      if settings.push then [.push settings.remote settings.integrationBranch] else [] := by
  cases h with
  | off h => simp [h]
  | accepted h ok => simp [h]
  | refused h error => simp [h]

-- ---------------------------------------------------------------------------
-- The two parts of a trace
-- ---------------------------------------------------------------------------

/-- A trace forward along the route, and one back from where it ends. -/
structure Parts (settings : GitSettings) (description b : String)
    (forward back : List Exchange) : Prop where
  along : requests forward <+: route settings description b
  /-- Only what was asked last may have failed. -/
  carried : ∀ e ∈ forward.dropLast, e.succeeds = true
  /-- Either the branch was named, or the question for it is as far as it went. -/
  named : Names forward b ∨
    (∀ b', ¬ Names forward b') ∧ back = [] ∧ requests forward <+: opening settings description
  homeward : requests back <:+ wayBack b
  apart : back ≠ [] → b ≠ settings.integrationBranch
  /-- Only a merge that was begun is ended. -/
  abort : .abortMerge ∈ requests back → .merge b ∈ requests forward
  unmerged : ∀ e ∈ forward, e.request = .merge b → e.succeeds = false →
    requests back = wayBack b
  left : ∀ e ∈ forward, e.request = .checkout settings.integrationBranch →
    e.succeeds = true → back ≠ []

/-- A trace that does not leave the working branch has nowhere to go back to. -/
theorem Parts.of_stayed (hAlong : requests t <+: route settings description b)
    (hCarried : ∀ e ∈ t.dropLast, e.succeeds = true)
    (hNamed : Names t b ∨ (∀ b', ¬ Names t b') ∧ requests t <+: opening settings description)
    (hMerge : .merge b ∉ requests t)
    (hLeft : ∀ e ∈ t, e.request = .checkout settings.integrationBranch → e.succeeds = false) :
    Parts settings description b t [] where
  along := hAlong
  carried := hCarried
  named := hNamed.imp_right fun h => ⟨h.1, rfl, h.2⟩
  homeward := List.nil_suffix
  apart h := absurd rfl h
  abort h := absurd h List.not_mem_nil
  unmerged e he hr := absurd (hr ▸ mem_requests he) hMerge
  left e he hr hs := by simp [hLeft e he hr] at hs

/-- Nor has one that ends with the opening questions. -/
theorem Parts.of_opening (hWay : requests t <+: opening settings description)
    (hCarried : ∀ e ∈ t.dropLast, e.succeeds = true)
    (hNamed : Names t b ∨ ∀ b', ¬ Names t b') : Parts settings description b t [] := by
  refine .of_stayed (hWay.trans (List.prefix_append _ _)) hCarried
    (hNamed.imp_right fun h => ⟨h, hWay⟩) (fun h => ?_) fun e he hr => ?_
  · simpa [opening] using hWay.subset h
  · have hMem := hWay.subset (mem_requests he)
    simp [hr, opening] at hMem

/-- A trace that came to the integration branch goes back from there. -/
theorem Parts.of_left (hAlong : requests forward <+: route settings description b)
    (hCarried : ∀ e ∈ forward.dropLast, e.succeeds = true) (hNames : Names forward b)
    (hApart : b ≠ settings.integrationBranch)
    (hBack : (requests back = [.checkout b] ∧
        ∀ e ∈ forward, e.request = .merge b → e.succeeds = true) ∨
      (requests back = [.abortMerge, .checkout b] ∧ .merge b ∈ requests forward)) :
    Parts settings description b forward back where
  along := hAlong
  carried := hCarried
  named := .inl hNames
  homeward := by
    rcases hBack with ⟨hBack, -⟩ | ⟨hBack, -⟩
    · exact ⟨[.abortMerge], by rw [hBack]; rfl⟩
    · exact ⟨[], hBack⟩
  apart _ := hApart
  abort h := by
    rcases hBack with ⟨hBack, -⟩ | ⟨-, hMerge⟩
    · simp [hBack] at h
    · exact hMerge
  unmerged e he hr hNot := by
    rcases hBack with ⟨-, hMerged⟩ | ⟨hBack, -⟩
    · simp [hMerged e he hr] at hNot
    · exact hBack
  left e he hr hs := by
    rintro rfl
    rcases hBack with ⟨hBack, -⟩ | ⟨hBack, -⟩ <;> cases hBack

/-- All but the last of what is asked behind a checkpoint has to succeed. -/
theorem Reaches.carried (h : Reaches settings description c p t d)
    (hx : ∀ e ∈ x.dropLast, e.succeeds = true) : ∀ e ∈ (t ++ x).dropLast, e.succeeds = true := by
  intro e he
  rcases List.eq_nil_or_concat x with rfl | ⟨y, l, rfl⟩
  · rw [List.append_nil] at he
    exact h.succeeds e (List.dropLast_subset t he)
  · rw [List.concat_eq_append, List.dropLast_concat] at hx
    rw [List.concat_eq_append, ← List.append_assoc, List.dropLast_concat] at he
    rcases List.mem_append.mp he with he | he
    · exact h.succeeds e he
    · exact hx e he

theorem Pushes.dropLast_eq (h : Pushes settings c t ws d) : t.dropLast = [] := by
  cases h <;> rfl

/-- Before the branch is named nothing but opening questions is asked. -/
theorem Reaches.parts_unnamed (h : Reaches settings description c p t d)
    (hWay : p.way settings description ++ requests x <+: opening settings description)
    (hx : ∀ e ∈ x.dropLast, e.succeeds = true)
    (unnamed : .currentBranch ∉ p.way settings description ++ requests x) :
    ∃ b, Parts settings description b (t ++ x) [] := by
  rw [← h.requests_eq, ← requests_append] at hWay unnamed
  exact ⟨"", .of_opening hWay (h.carried hx) (.inr fun b => not_names unnamed)⟩

/-- A call that gives up at a checkpoint goes back from where that is. -/
theorem Reaches.parts_undone (h : Reaches settings description c p t d)
    (hf : c.stage.origin? = none) (undone : Undoes d u d') :
    ∃ b, Parts settings description b t u := by
  have hWay := h.requests_eq
  have hCarried : ∀ e ∈ t.dropLast, e.succeeds = true :=
    fun e he => h.succeeds e (List.dropLast_subset t he)
  have hBack := undone.requests_eq
  rw [h.stage_eq] at hBack
  cases p with
  | start =>
    obtain rfl := undone.eq_nil (by rw [h.stage_eq]; exact hf)
    rw [← List.append_nil t]
    exact h.parts_unnamed (by simp [Checkpoint.way]) (by simp) (by simp [Checkpoint.way])
  | staged =>
    obtain rfl := undone.eq_nil (by rw [h.stage_eq]; rfl)
    rw [← List.append_nil t]
    exact h.parts_unnamed (by simp [Checkpoint.way, opening]) (by simp) (by simp [Checkpoint.way])
  | committed b =>
    obtain rfl := undone.eq_nil (by rw [h.stage_eq]; rfl)
    exact ⟨b, .of_opening (hWay ▸ List.prefix_rfl) hCarried (.inl h.names)⟩
  | onIntegration b =>
    obtain ⟨hNames, apart⟩ := h.names_onIntegration
    refine ⟨b, .of_left ?_ hCarried hNames apart (.inl ⟨hBack, fun e he _ => h.succeeds e he⟩)⟩
    rw [hWay]
    simp [Checkpoint.way, route, delivery, apart]
  | merged b =>
    obtain ⟨hNames, apart⟩ := h.names_merged
    refine ⟨b, .of_left ?_ hCarried hNames apart (.inr ⟨hBack, ?_⟩)⟩
    · rw [hWay]
      simp [Checkpoint.way, route, delivery, apart]
    · simp [hWay, Checkpoint.way]

/-- A call whose step fails goes back if that step was the merge. -/
theorem Fails.parts {detail : String} (h : Fails settings description d p x d' detail)
    (reached : Reaches settings description c p t d) (hf : c.stage.origin? = none)
    {d'' : Committer} (undone : Undoes d' u d'') :
    ∃ b, Parts settings description b (t ++ x) u := by
  have hWay := reached.requests_eq
  have hBack := undone.requests_eq
  have hStage := reached.stage_eq
  cases h with
  | stage error =>
    obtain rfl := undone.eq_nil (by rw [note_stage, hStage]; exact hf)
    exact reached.parts_unnamed (by simp [Checkpoint.way, opening]) (by simp)
      (by simp [Checkpoint.way])
  | commit error =>
    obtain rfl := undone.eq_nil (by rw [note_stage, hStage]; rfl)
    exact reached.parts_unnamed (by simp [Checkpoint.way, opening]) (by simp)
      (by simp [Checkpoint.way])
  | locate ok error =>
    obtain rfl := undone.eq_nil (by rw [note_stage, note_stage, hStage]; rfl)
    refine ⟨"", .of_opening ?_ (reached.carried ?_) (.inr fun b => ?_)⟩
    · simp [hWay, Checkpoint.way, opening]
    · simp [Exchange.succeeds, ok]
    · rw [names_append, not_or]
      refine ⟨not_names (by simp [hWay, Checkpoint.way]), ?_⟩
      simp [Names, error]
  | switch apart error =>
    obtain rfl := undone.eq_nil (by rw [note_stage, hStage]; rfl)
    refine ⟨_, .of_stayed ?_ (reached.carried (by simp)) (.inl reached.names.append) ?_ ?_⟩
    · simp [hWay, Checkpoint.way, route, delivery, apart]
    · simp [hWay, Checkpoint.way, opening]
    · intro e he hr
      rcases List.mem_append.mp he with he | he
      · have hMem := mem_requests he
        simp [hr, hWay, Checkpoint.way, opening] at hMem
      · obtain rfl := List.mem_singleton.mp he
        simp [Exchange.succeeds, error, Except.toBool]
  | merge error =>
    obtain ⟨hNames, apart⟩ := reached.names_onIntegration
    refine ⟨_, .of_left ?_ (reached.carried (by simp)) hNames.append apart (.inr ⟨hBack, ?_⟩)⟩
    · simp [hWay, Checkpoint.way, route, delivery, apart]
    · simp

/-- Every course of an integration goes along the route, and then back. -/
theorem Ends.parts {r : Except RunError Integration} (h : Ends settings description c t r d)
    (hf : c.stage.origin? = none) :
    ∃ b forward back, t = forward ++ back ∧ Parts settings description b forward back := by
  cases h with
  | interrupted reached stop undone =>
    obtain ⟨b, hParts⟩ := reached.parts_undone hf undone
    exact ⟨b, _, _, rfl, hParts⟩
  | failed reached go fails undone =>
    obtain ⟨b, hParts⟩ := fails.parts reached hf undone
    exact ⟨b, _, _, (List.append_assoc _ _ _).symm, hParts⟩
  | @nothing _ _ a reached go empty =>
    obtain ⟨b, hParts⟩ := reached.parts_unnamed (x := [⟨_, a⟩])
      (by simp [Checkpoint.way, opening]) (by simp) (by simp [Checkpoint.way])
    exact ⟨b, _, [], (List.append_nil _).symm, hParts⟩
  | already reached go pushed =>
    have hWay := reached.requests_eq
    refine ⟨_, _, [], (List.append_nil _).symm,
      .of_stayed ?_ (reached.carried (by simp [pushed.dropLast_eq])) (.inl reached.names.append)
        ?_ fun e he hr => ?_⟩
    · simp [hWay, pushed.requests_eq, Checkpoint.way, route, delivery]
    · simp [hWay, pushed.requests_eq, Checkpoint.way, opening]
    · have hMem := mem_requests he
      simp [hr, hWay, pushed.requests_eq, Checkpoint.way, opening] at hMem
  | conflict reached go conflict restored =>
    have hWay := reached.requests_eq
    obtain ⟨hNames, apart⟩ := reached.names_onIntegration
    refine ⟨_, _, _, List.append_cons _ _ _, .of_left ?_ (reached.carried (by simp))
      hNames.append apart (.inr ⟨?_, ?_⟩)⟩
    · simp [hWay, Checkpoint.way, route, delivery, apart]
    · rw [requests_cons, restored.requests_eq]
    · simp
  | merged reached go pushed restored =>
    have hWay := reached.requests_eq
    obtain ⟨hNames, apart⟩ := reached.names_merged
    refine ⟨_, _, _, (List.append_assoc _ _ _).symm, .of_left ?_
      (reached.carried (by simp [pushed.dropLast_eq])) hNames.append apart
      (.inl ⟨restored.requests_eq, fun e he hr => ?_⟩)⟩
    · simp [hWay, pushed.requests_eq, Checkpoint.way, route, delivery, apart]
    · rcases List.mem_append.mp he with he | he
      · exact reached.succeeds e he
      · have hMem := mem_requests he
        simp [hr, pushed.requests_eq] at hMem

-- ---------------------------------------------------------------------------
-- The whole trace
-- ---------------------------------------------------------------------------

theorem isStep_of_mem_route {r : Request} (h : r ∈ route settings description b) :
    r.isStep settings.integrationBranch = true := by
  simp only [route, opening, delivery, List.mem_append, List.mem_cons, List.not_mem_nil,
    or_false] at h
  rcases h with (rfl | rfl | rfl) | h | h
  · rfl
  · rfl
  · rfl
  · split at h
    · simp at h
    · simp only [List.mem_cons, List.not_mem_nil, or_false] at h
      rcases h with rfl | rfl <;> simp [Request.isStep]
  · split at h
    · obtain rfl := List.mem_singleton.mp h
      rfl
    · simp at h

theorem route_nodup : (route settings description b).Nodup := by
  unfold route opening delivery
  split <;> split <;> simp

theorem Parts.isStep_forward (h : Parts settings description b forward back) :
    ∀ r ∈ requests forward, r.isStep settings.integrationBranch = true :=
  fun _ hr => isStep_of_mem_route (h.along.subset hr)

/-- No step forward is among the questions that lead back. -/
theorem Parts.not_isStep_back (h : Parts settings description b forward back) :
    ∀ r ∈ requests back, r.isStep settings.integrationBranch = false := by
  intro r hr
  have apart : b ≠ settings.integrationBranch := h.apart (by rintro rfl; simp at hr)
  have hMem := h.homeward.subset hr
  simp only [wayBack, List.mem_cons, List.not_mem_nil, or_false] at hMem
  rcases hMem with rfl | rfl
  · rfl
  · simpa [Request.isStep] using apart

theorem Parts.mem_forward (h : Parts settings description b forward back) {e : Exchange}
    (he : e ∈ forward ++ back) (hStep : e.request.isStep settings.integrationBranch = true) :
    e ∈ forward := by
  refine (List.mem_append.mp he).resolve_right fun hBack => ?_
  rw [h.not_isStep_back _ (mem_requests hBack)] at hStep
  cases hStep

theorem Parts.back_cases (h : Parts settings description b forward back) :
    back = [] ∨ requests back = [.checkout b] ∨ requests back = [.abortMerge, .checkout b] := by
  rcases List.suffix_cons_iff.mp h.homeward with hBoth | hSuffix
  · exact .inr (.inr hBoth)
  · rcases List.suffix_cons_iff.mp hSuffix with hOne | hNone
    · exact .inr (.inl hOne)
    · exact .inl (List.map_eq_nil_iff.mp (List.suffix_nil.mp hNone))

/-- A step forward stands in the first part. -/
theorem Parts.split_step (h : Parts settings description b forward back)
    {before after : List Exchange} {e : Exchange} (hSplit : forward ++ back = before ++ e :: after)
    (hStep : e.request.isStep settings.integrationBranch = true) :
    ∃ rest, forward = before ++ e :: rest ∧ after = rest ++ back := by
  have hNot : e ∉ back := fun he => by
    simp [h.not_isStep_back _ (mem_requests he)] at hStep
  rcases List.append_eq_append_iff.mp hSplit with ⟨rest, rfl, hRest⟩ | ⟨rest, rfl, hRest⟩
  · exact absurd (hRest ▸ by simp) hNot
  · rcases List.cons_eq_append_iff.mp hRest with ⟨rfl, hx⟩ | ⟨tail, rfl, rfl⟩
    · exact absurd (hx ▸ List.mem_cons_self) hNot
    · exact ⟨tail, rfl, rfl⟩

/-- Any other question comes after the whole first part. -/
theorem Parts.split_back (h : Parts settings description b forward back)
    {before after : List Exchange} {e : Exchange} (hSplit : forward ++ back = before ++ e :: after)
    (hStep : e.request.isStep settings.integrationBranch = false) :
    ∃ rest, before = forward ++ rest := by
  rcases List.append_eq_append_iff.mp hSplit with ⟨rest, rfl, -⟩ | ⟨rest, rfl, hRest⟩
  · exact ⟨rest, rfl⟩
  · rcases List.cons_eq_append_iff.mp hRest with ⟨rfl, -⟩ | ⟨tail, rfl, -⟩
    · exact ⟨[], by simp⟩
    · have hForward := h.isStep_forward e.request (by simp)
      simp [hStep] at hForward

theorem Parts.names_iff (h : Parts settings description b forward back) {b' : String} :
    Names (forward ++ back) b' ↔ Names forward b' := by
  rw [names_append, or_iff_left]
  refine not_names fun hMem => ?_
  have hStep := h.not_isStep_back _ hMem
  cases hStep

theorem Parts.nodup (h : Parts settings description b forward back) :
    (requests (forward ++ back)).Nodup := by
  rw [requests_append, List.nodup_append]
  refine ⟨h.along.sublist.nodup route_nodup, h.homeward.sublist.nodup (by simp [wayBack]), ?_⟩
  rintro r hForward _ hBack rfl
  have hStep := h.isStep_forward r hForward
  rw [h.not_isStep_back r hBack] at hStep
  cases hStep

/--
The trace of an integration whose working branch is `b`. Its steps follow the route,
and each of them waits for the success of everything before it; what else is asked leads
back to `b`.
-/
structure Disciplined (settings : GitSettings) (description b : String) (t : List Exchange) :
    Prop where
  /-- The steps are the first of the route, in its order. -/
  steps : (requests t).filter (Request.isStep settings.integrationBranch) <+:
    route settings description b
  /-- A step is taken only after the success of whatever was asked before it. -/
  gated : ∀ before e after, t = before ++ e :: after →
    e.request.isStep settings.integrationBranch = true → ∀ x ∈ before, x.succeeds = true
  /-- Beyond the question for the branch, the branch was named. -/
  named : Names t b ∨ requests t <+: opening settings description
  /-- No other branch was named. -/
  sole : ∀ b', Names t b' → b' = b
  /-- From the integration branch itself nothing is checked out or merged. -/
  home : b = settings.integrationBranch →
    ∀ target, .checkout target ∉ requests t ∧ .merge target ∉ requests t
  /-- Whatever is no step ends the merge or checks `b` out. -/
  others : ∀ r ∈ requests t, r.isStep settings.integrationBranch = false → r ∈ wayBack b
  /-- Nothing is asked twice. -/
  once : (requests t).Nodup
  /-- Only a merge that was begun is ended. -/
  abort : ∀ before e after, t = before ++ e :: after → e.request = .abortMerge →
    .merge b ∈ requests before
  /-- A merge that did not go through is ended, then `b` is checked out, and that is all. -/
  unmerged : ∀ before target (a : Answer (.merge target)) after,
    t = before ++ ⟨.merge target, a⟩ :: after → a.reply ≠ .ok .merged →
      target = b ∧ requests after = [.abortMerge, .checkout b]
  /-- Once the integration branch is checked out, the last question is the checkout of `b`. -/
  left : ∀ a : Answer (.checkout settings.integrationBranch), ⟨_, a⟩ ∈ t → a.reply = .ok () →
    (requests t).getLast? = some (.checkout b)
  /-- Nothing is pushed if the settings say so. -/
  pushed : settings.push = false → ∀ remote target, .push remote target ∉ requests t

theorem Parts.disciplined (h : Parts settings description b forward back) :
    Disciplined settings description b (forward ++ back) where
  steps := by
    rw [requests_append, List.filter_append, List.filter_eq_self.mpr h.isStep_forward,
      List.filter_eq_nil_iff.mpr fun r hr => by simp [h.not_isStep_back r hr], List.append_nil]
    exact h.along
  gated before e after hSplit hStep x hx := by
    obtain ⟨rest, rfl, -⟩ := h.split_step hSplit hStep
    refine h.carried x ?_
    rw [List.dropLast_append_of_ne_nil (by simp)]
    exact List.mem_append_left _ hx
  named := by
    rcases h.named with hNames | ⟨-, rfl, hWay⟩
    · exact .inl hNames.append
    · rw [List.append_nil]
      exact .inr hWay
  sole b' hb' := by
    rcases h.named with hNames | ⟨hNot, -⟩
    · exact hNames.append.unique h.nodup hb'
    · exact absurd (h.names_iff.mp hb') (hNot b')
  home hb target := by
    have hNil : back = [] := Classical.byContradiction fun hBack => h.apart hBack hb
    have hAlong := h.along.subset
    subst hNil
    rw [List.append_nil]
    constructor <;> intro hMem
    all_goals
      have hRoute := hAlong hMem
      simp [route, opening, delivery, hb] at hRoute
  others r hr hStep := by
    rw [requests_append] at hr
    rcases List.mem_append.mp hr with hr | hr
    · simp [h.isStep_forward r hr] at hStep
    · exact h.homeward.subset hr
  once := h.nodup
  abort before e after hSplit he := by
    obtain ⟨rest, rfl⟩ := h.split_back hSplit (by rw [he]; rfl)
    have hBack : .abortMerge ∈ requests (forward ++ back) := by
      rw [hSplit, ← he]
      exact mem_requests (by simp)
    rw [requests_append] at hBack ⊢
    refine List.mem_append_left _ (h.abort ?_)
    rcases List.mem_append.mp hBack with hMem | hMem
    · cases h.isStep_forward _ hMem
    · exact hMem
  unmerged before target a after hSplit hNot := by
    obtain ⟨rest, rfl, rfl⟩ := h.split_step hSplit rfl
    have hFails : Exchange.succeeds ⟨.merge target, a⟩ = false := by
      rwa [← Bool.not_eq_true, Exchange.succeeds_merge_iff]
    -- whatever failed was the last question on the way forward
    have hLast : rest = [] := by
      refine Classical.byContradiction fun hMore => ?_
      have hCarried := h.carried ⟨.merge target, a⟩ (by
        rw [List.dropLast_append_of_ne_nil (by simp), List.dropLast_cons_of_ne_nil hMore]
        simp)
      rw [hFails] at hCarried
      cases hCarried
    subst hLast
    have hTarget : target = b := by
      have hRoute := h.along.subset (mem_requests (List.mem_append_right before List.mem_cons_self))
      simp only [route, opening, delivery, List.mem_append, List.mem_cons, List.mem_ite_nil_left,
        List.mem_ite_nil_right, List.not_mem_nil, reduceCtorEq, false_or, or_false, and_false,
        Request.merge.injEq] at hRoute
      exact hRoute.2
    refine ⟨hTarget, ?_⟩
    rw [List.nil_append]
    exact h.unmerged _ (by simp) (congrArg Request.merge hTarget) hFails
  left a ha ok := by
    have hForward := h.mem_forward ha (by simp [Request.isStep])
    have hBack := h.left _ hForward rfl (by simp [Exchange.succeeds, ok, Except.toBool])
    rw [requests_append]
    rcases h.back_cases with rfl | hRequests | hRequests
    · exact absurd rfl hBack
    · simp [hRequests]
    · simp [hRequests]
  pushed hPush remote target hMem := by
    obtain ⟨e, he, hr⟩ := List.mem_map.mp hMem
    have hRoute := h.along.subset (mem_requests (h.mem_forward he (by rw [hr]; rfl)))
    simp [hr, route, opening, delivery, hPush] at hRoute

/--
**The trace of a call of a new committer is disciplined**, whatever is answered and
wherever the token is tripped. Without modified files there is no trace.
-/
theorem integrate_disciplined {σ : Type} (script : Script σ) (settings : GitSettings)
    (description : String) (files : List String) (started : Bool) (s : σ) :
    let ran := (integrate settings ⟨.clean, started⟩ description files).run script s
    (∃ b, Disciplined settings description b ran.2.1) ∧ (files = [] → ran.2.1 = []) := by
  intro ran
  have hLeads := run_leads script (integrate settings ⟨.clean, started⟩ description files) s
  rcases integrate_ends hLeads with ⟨-, hNil, -⟩ | ⟨hFiles, hEnds⟩
  · have hParts : Parts settings description "" [] [] :=
      .of_opening List.nil_prefix (by simp) (.inr fun b => not_names (by simp))
    have hTrace : ran.2.1 = [] ++ [] := hNil
    exact ⟨⟨_, hTrace ▸ hParts.disciplined⟩, fun _ => hNil⟩
  · obtain ⟨b, forward, back, hTrace, hParts⟩ := hEnds.parts rfl
    have hTrace : ran.2.1 = forward ++ back := hTrace
    exact ⟨⟨b, hTrace ▸ hParts.disciplined⟩, fun hNone => absurd hNone hFiles⟩

/-- A conflict, an abort that fails, and an interrupt during the refused return. -/
theorem integrate_disciplined_conflict :
    let s : Rehearsal :=
      { merges := [⟨false, none, .conflict "CONFLICT"⟩], aborts := [⟨false, some (.of "no"), ()⟩],
        checkouts := [⟨false, none, ()⟩, ⟨true, some (.of "locked"), ()⟩] }
    let ran := (integrate {} ⟨.clean, false⟩ "Fix typo" ["README.md"]).run Rehearsal.answer s
    requests ran.2.1 = opening {} "Fix typo" ++
        [.checkout "main", .merge "work", .abortMerge, .checkout "work"] ∧
      ∃ b, Disciplined {} "Fix typo" b ran.2.1 :=
  ⟨rfl, (integrate_disciplined Rehearsal.answer {} "Fix typo" ["README.md"] false _).1⟩

end Committer

end Errand
