import Errand.Proofs.Integration.Discipline
import Errand.Proofs.Integration.Restoration

/-!
# Errand — when the switch to the integration branch is refused

A checkout that is reported as failed may have moved the branch all the same, as when a
hook fails after it. An integration goes by what is reported. So it returns to the
working branch exactly if the switch to the integration branch was reported as done; a
switch that was refused is the end of it, wherever that switch has left the repository.

* `Wayward`        — a repository whose refused checkouts may have moved the branch.
* `Drifts`         — where a trace may take the branch; `Wayward.run` is about a run.
* `Passage`        — what became of the switch, and of the return.
* `Ends.passage`   — every course of an integration is one of these passages.
* `Departed`       — where that leaves the repository.
* `integrate_departs` — a call of a new committer, against any wayward repository.
-/

namespace Errand.Dialogue

variable {σ α : Type} {b b' b'' : String} {e : Exchange} {t u : List Exchange}

-- ---------------------------------------------------------------------------
-- Wayward repositories
-- ---------------------------------------------------------------------------

/-- The repository is honest about branches, but for what a refused checkout has done. -/
structure Wayward (script : Script σ) (branch : σ → String) : Prop where
  /-- A checkout that succeeds makes its branch the current one. -/
  checkout_ok : ∀ b s, (script (.checkout b) s).1.reply = .ok () →
    branch (script (.checkout b) s).2 = b
  /-- A checkout that fails may have done so as well. -/
  checkout_error : ∀ b s e, (script (.checkout b) s).1.reply = .error e →
    branch (script (.checkout b) s).2 = branch s ∨ branch (script (.checkout b) s).2 = b
  /-- Nothing else changes the current branch. -/
  other : ∀ r s, (∀ b, r ≠ .checkout b) → branch (script r s).2 = branch s
  /-- The current branch, if it is told, is told as it is. -/
  currentBranch_ok : ∀ s b, (script .currentBranch s).1.reply = .ok b → b = branch s

/-- An honest repository is a wayward one that never strays. -/
theorem Honest.wayward {script : Script σ} {branch : σ → String} (h : Honest script branch) :
    Wayward script branch :=
  { h with checkout_error := fun b s e he => .inl (h.checkout_error b s e he) }

/-- Where an exchange may take the branch; what it tells of it is true. -/
def Exchange.Moves (e : Exchange) (current next : String) : Prop :=
  match e.checkout? with
  | some (b, true) => next = b
  | some (b, false) => next = current ∨ next = b
  | none => next = current ∧ e.Tells current

theorem Exchange.moves_checkout {a : Answer (.checkout b)} {current next : String} :
    Exchange.Moves ⟨_, a⟩ current next ↔
      (a.reply.toBool = true → next = b) ∧ (next = current ∨ next = b) := by
  obtain ⟨e | ⟨⟩, i⟩ := a
  · exact ⟨fun h => ⟨nofun, h⟩, fun h => h.2⟩
  · exact ⟨fun h => ⟨fun _ => h, .inr h⟩, fun h => h.1 rfl⟩

/-- Where a trace may take the branch. -/
inductive Drifts : String → List Exchange → String → Prop
  | nil (b : String) : Drifts b [] b
  | cons {b b' b'' : String} {e : Exchange} {t : List Exchange} (moves : e.Moves b b')
      (rest : Drifts b' t b'') : Drifts b (e :: t) b''

theorem drifts_singleton_iff : Drifts b [e] b' ↔ e.Moves b b' := by
  constructor
  · rintro (_ | ⟨moves, ⟨⟩⟩)
    exact moves
  · exact fun moves => .cons moves (.nil b')

theorem drifts_append : Drifts b (t ++ u) b'' ↔ ∃ b', Drifts b t b' ∧ Drifts b' u b'' := by
  induction t generalizing b with
  | nil =>
    constructor
    · exact fun h => ⟨b, .nil b, h⟩
    · rintro ⟨_, ⟨⟩, h⟩
      exact h
  | cons e t ih =>
    constructor
    · rintro (_ | ⟨moves, rest⟩)
      obtain ⟨b', ht, hu⟩ := ih.mp rest
      exact ⟨b', .cons moves ht, hu⟩
    · rintro ⟨b', _ | ⟨moves, ht⟩, hu⟩
      exact .cons moves (ih.mpr ⟨b', ht, hu⟩)

/-- Without a checkout the branch stays, and what is told of it is true. -/
theorem Drifts.stays (h : Drifts b t b') (still : checkouts t = []) :
    b' = b ∧ ∀ e ∈ t, e.Tells b := by
  induction h with
  | nil b => exact ⟨rfl, by simp⟩
  | cons moves rest ih =>
    rw [checkouts_cons, List.append_eq_nil_iff, Option.toList_eq_nil_iff] at still
    simp only [Exchange.Moves, still.1] at moves
    obtain ⟨rfl, hTells⟩ := moves
    obtain ⟨rfl, hRest⟩ := ih still.2
    exact ⟨rfl, List.forall_mem_cons.mpr ⟨hTells, hRest⟩⟩

/-- So the branch that is named is the one that the trace began on. -/
theorem Drifts.names_eq (h : Drifts b t b') (still : checkouts t = []) {home : String}
    (named : Names t home) : home = b := by
  obtain ⟨a, ha, hr⟩ := named
  exact (h.stays still).2 _ ha home hr

/-- One exchange with a wayward repository. -/
theorem Wayward.exchange {script : Script σ} {branch : σ → String} (h : Wayward script branch)
    (r : Request) (s : σ) :
    Exchange.Moves ⟨r, (script r s).1⟩ (branch s) (branch (script r s).2) := by
  cases r with
  | checkout b =>
    rw [Exchange.moves_checkout]
    cases hr : (script (.checkout b) s).1.reply with
    | ok x => exact ⟨fun _ => h.checkout_ok b s hr, .inr (h.checkout_ok b s hr)⟩
    | error e => exact ⟨nofun, h.checkout_error b s e hr⟩
  | currentBranch => exact ⟨h.other _ s (by simp), h.currentBranch_ok s⟩
  | _ => exact ⟨h.other _ s (by simp), trivial⟩

/-- **A run against a wayward repository** leaves the branch where its trace may take it. -/
theorem Wayward.run {script : Script σ} {branch : σ → String} (h : Wayward script branch)
    (d : Dialogue α) (s : σ) :
    Drifts (branch s) (d.run script s).2.1 (branch (d.run script s).2.2) := by
  induction d generalizing s with
  | done a => exact .nil _
  | ask r next ih => exact .cons (h.exchange r s) (ih _ _)

theorem mem_checkouts {a : Answer (.checkout b)} (h : ⟨_, a⟩ ∈ t) :
    (b, a.reply.toBool) ∈ checkouts t := List.mem_filterMap.mpr ⟨_, h, rfl⟩

theorem not_mem_of_still (still : checkouts t = []) {a : Answer (.checkout b)} : ⟨_, a⟩ ∉ t := by
  intro h
  simpa [still] using mem_checkouts h

theorem checkouts_eq_nil_iff : checkouts t = [] ↔ ∀ b, .checkout b ∉ requests t := by
  rw [checkouts, List.filterMap_eq_nil_iff]
  constructor
  · intro still b hb
    obtain ⟨⟨r, a⟩, he, hr⟩ := List.mem_map.mp hb
    cases hr
    cases still _ he
  · rintro hNot ⟨r, a⟩ he
    cases r with
    | checkout b => exact absurd (mem_requests he) (hNot b)
    | _ => rfl

end Errand.Dialogue

namespace Errand.Rehearsal

/-- The script that takes the next cues like the truthful one, but a checkout that it
reports as failed is done as well. -/
def straying : Dialogue.Script Rehearsal := fun r s =>
  let (a, s) := truthful r s
  match r with
  | .checkout b => (a, { s with branch := b })
  | _ => (a, s)

/-- Rehearsed collaborators can be wayward without being honest. -/
theorem wayward_straying : Dialogue.Wayward straying Rehearsal.branch where
  checkout_ok b s _ := rfl
  checkout_error b s e _ := .inr rfl
  other r s h := by
    cases r with
    | checkout b => exact absurd rfl (h b)
    | _ => exact honest_truthful.other _ s h
  currentBranch_ok := honest_truthful.currentBranch_ok

end Errand.Rehearsal

namespace Errand.Committer

open Dialogue

variable {settings : GitSettings} {description integration home current b : String}
  {c d d' : Committer} {p : Checkpoint} {t u x : List Exchange} {w : Option Warning}
  {r : Except RunError Integration}

-- ---------------------------------------------------------------------------
-- The switch and the return
-- ---------------------------------------------------------------------------

/-- A trace names `b` and then leaves it: the integration branch is checked out, and
nothing after it. -/
inductive Leaves (integration b : String) : List Exchange → Prop
  | mk {before after : List Exchange} {a : Answer (.checkout integration)}
      (named : Names before b) (still : checkouts before = []) (apart : b ≠ integration)
      (ok : a.reply = .ok ()) (quiet : checkouts after = []) :
      Leaves integration b (before ++ ⟨_, a⟩ :: after)

/-- Where a call stands: it has left `b`, and the stage says so, or it has left nothing. -/
def Poised (integration : String) (t : List Exchange) (s : Stage) : Prop :=
  (s.origin? = none ∧ checkouts t = []) ∨ ∃ b, s.origin? = some b ∧ Leaves integration b t

/-- What becomes of the switch to the integration branch. -/
inductive Passage (integration : String) :
    List Exchange → Except RunError Integration → Prop
  /-- It is not asked for, and neither is any other checkout. -/
  | stayed {t : List Exchange} {r : Except RunError Integration} (still : checkouts t = []) :
      Passage integration t r
  /-- It is refused, and nothing is asked any more. -/
  | refused {before : List Exchange} {b : String} {a : Answer (.checkout integration)}
      {e : Failure} {failure : RunError} (named : Names before b) (still : checkouts before = [])
      (apart : b ≠ integration) (error : a.reply = .error e) :
      Passage integration (before ++ [⟨_, a⟩]) (.error failure)
  /-- It is done, and the return is the last question. -/
  | returned {t : List Exchange} {b : String} {a : Answer (.checkout b)}
      {r : Except RunError Integration} (left : Leaves integration b t) :
      Passage integration (t ++ [⟨.checkout b, a⟩]) r

theorem Leaves.append (h : Leaves integration b t) (hu : checkouts u = []) :
    Leaves integration b (t ++ u) := by
  obtain ⟨named, still, apart, ok, quiet⟩ := h
  rw [List.append_assoc, List.cons_append]
  exact .mk named still apart ok (by simp [quiet, hu])

theorem Leaves.apart (h : Leaves integration b t) : b ≠ integration := by
  cases h
  assumption

theorem Leaves.names (h : Leaves integration b t) : Names t b := by
  obtain ⟨named, -⟩ := h
  exact named.append

theorem Leaves.checkouts_eq (h : Leaves integration b t) :
    checkouts t = [(integration, true)] := by
  obtain ⟨-, still, -, ok, quiet⟩ := h
  simp [still, checkout?_ok ok, quiet]

/-- The answer that counts is the one to the only checkout. -/
theorem Leaves.ok (h : Leaves integration b t) {a : Answer (.checkout integration)}
    (ha : ⟨_, a⟩ ∈ t) : a.reply = .ok () := by
  obtain ⟨-, still, -, ok, quiet⟩ := h
  rcases List.mem_append.mp ha with ha | ha
  · exact absurd ha (not_mem_of_still still)
  · rcases List.mem_cons.mp ha with ha | ha
    · cases ha
      exact ok
    · exact absurd ha (not_mem_of_still quiet)

/-- What is left is the branch that the trace began on, for the integration branch. -/
theorem Leaves.drifts (h : Leaves integration b t) (drifts : Drifts home t current) :
    b = home ∧ current = integration := by
  obtain ⟨named, still, -, ok, quiet⟩ := h
  obtain ⟨b₁, hBefore, hRest⟩ := drifts_append.mp drifts
  obtain ⟨b₂, hSwitch, hAfter⟩ := drifts_append.mp (List.singleton_append ▸ hRest)
  rw [drifts_singleton_iff, Exchange.moves_checkout] at hSwitch
  have hAt : b₂ = integration := hSwitch.1 (by rw [ok]; rfl)
  exact ⟨hBefore.names_eq still named, (hAfter.stays quiet).1.trans hAt⟩

theorem Poised.append {s : Stage} (h : Poised integration t s) (hu : checkouts u = []) :
    Poised integration (t ++ u) s := by
  rcases h with ⟨hs, still⟩ | ⟨b, hs, left⟩
  · exact .inl ⟨hs, by simp [still, hu]⟩
  · exact .inr ⟨b, hs, left.append hu⟩

/-- A checkpoint whose way has no checkout is reached without one. -/
theorem Reaches.still (h : Reaches settings description c p t d)
    (hWay : ∀ target, .checkout target ∉ p.way settings description) : checkouts t = [] :=
  checkouts_eq_nil_iff.mpr (h.requests_eq ▸ hWay)

theorem Reaches.leaves (h : Reaches settings description c (.onIntegration b) t d) :
    Leaves settings.integrationBranch b t := by
  cases h with
  | onIntegration before go apart ok =>
    exact .mk before.names (before.still (by simp [Checkpoint.way, opening])) apart ok rfl

theorem Reaches.poised (h : Reaches settings description c p t d)
    (hf : c.stage.origin? = none) : Poised settings.integrationBranch t d.stage := by
  rw [h.stage_eq]
  cases p with
  | start => exact .inl ⟨hf, h.still (by simp [Checkpoint.way])⟩
  | staged => exact .inl ⟨rfl, h.still (by simp [Checkpoint.way])⟩
  | committed b => exact .inl ⟨rfl, h.still (by simp [Checkpoint.way, opening])⟩
  | onIntegration b => exact .inr ⟨b, rfl, h.leaves⟩
  | merged b =>
    cases h with
    | merged before go ok => exact .inr ⟨b, rfl, before.leaves.append rfl⟩

theorem Restores.passage (h : Restores b c u w d) (left : Leaves integration b t) :
    Passage integration (t ++ u) r := by
  cases h <;> exact .returned left

theorem Undoes.passage (h : Undoes c u d) (hs : Poised integration t c.stage) :
    Passage integration (t ++ u) r := by
  rcases hs with ⟨hNone, still⟩ | ⟨b, hSome, left⟩
  · obtain rfl := h.eq_nil hNone
    exact .stayed (by simp [still])
  · cases h with
    | settled hNone => simp [hNone] at hSome
    | leave hStage restored =>
      rw [hStage] at hSome
      cases hSome
      exact restored.passage left
    | abort hStage restored =>
      rw [hStage] at hSome
      cases hSome
      rw [List.append_cons]
      exact restored.passage (left.append rfl)

/-- Only the switch itself can fail without leaving a call where it stood. -/
theorem Fails.passage {detail : String} (h : Fails settings description d p x d' detail)
    (reached : Reaches settings description c p t d) (hf : c.stage.origin? = none)
    {d'' : Committer} (undone : Undoes d' u d'') {failure : RunError} :
    Passage settings.integrationBranch (t ++ (x ++ u)) (.error failure) := by
  have hs := reached.poised hf
  cases h with
  | switch apart error =>
    -- the stage still says that the working branch is checked out
    obtain rfl := undone.eq_nil (by rw [note_stage, reached.stage_eq]; rfl)
    rcases hs with ⟨-, still⟩ | ⟨_, hSome, -⟩
    · exact .refused reached.names still apart error
    · rw [reached.stage_eq] at hSome
      cases hSome
  | merge error =>
    rw [← List.append_assoc]
    rw [reached.stage_eq] at hs
    exact undone.passage (hs.append rfl)
  | _ =>
    rw [← List.append_assoc]
    exact undone.passage (hs.append rfl)

/-- **Every course of an integration** that did not begin away from its branch is one of
these passages. -/
theorem Ends.passage (h : Ends settings description c t r d) (hf : c.stage.origin? = none) :
    Passage settings.integrationBranch t r := by
  cases h with
  | interrupted reached stop undone => exact undone.passage (reached.poised hf)
  | failed reached go fails undone => exact fails.passage reached hf undone
  | nothing reached go empty =>
    have still := reached.still (by simp [Checkpoint.way])
    exact .stayed (by simp [still, Exchange.checkout?])
  | already reached go pushed =>
    have still := reached.still (by simp [Checkpoint.way, opening])
    exact .stayed (by simp [still, pushed.checkouts_eq])
  | conflict reached go conflict restored =>
    rw [List.append_cons, List.append_cons]
    exact restored.passage ((reached.leaves.append rfl).append rfl)
  | merged reached go pushed restored =>
    rw [← List.append_assoc]
    cases reached with
    | merged before go ok =>
      exact restored.passage ((before.leaves.append rfl).append pushed.checkouts_eq)

-- ---------------------------------------------------------------------------
-- Where that leaves the repository
-- ---------------------------------------------------------------------------

/--
Where a call leaves the repository that found it on `home`, if it asked for the
integration branch with the answer `a`.
-/
structure Departed (integration home current : String) (a : Answer (.checkout integration))
    (t : List Exchange) (r : Except RunError Integration) : Prop where
  /-- The branch that was named is the one it began on, and another one. -/
  named : Names t home ∧ home ≠ integration
  /-- The return is asked for exactly if the switch is reported as done, -/
  return_iff : .checkout home ∈ requests t ↔ a.reply = .ok ()
  /-- and then it is the last question. -/
  last : a.reply = .ok () → (requests t).getLast? = some (.checkout home)
  /-- If it succeeds, the call has come home. -/
  back : (home, true) ∈ checkouts t → current = home
  /-- A refused switch is the last exchange, and the call fails. -/
  refused : ∀ e, a.reply = .error e →
    t.getLast? = some ⟨_, a⟩ ∧ ∃ failure, r = .error failure
  /-- The call can end on no third branch. -/
  within : current = home ∨ current = integration

theorem Passage.departed (h : Passage integration t r) (drifts : Drifts home t current)
    {a : Answer (.checkout integration)} (ha : ⟨_, a⟩ ∈ t) :
    Departed integration home current a t r := by
  cases h with
  | stayed still => exact absurd ha (not_mem_of_still still)
  | @refused before b a₀ e failure named still apart error =>
    obtain ⟨b', hBefore, hSwitch⟩ := drifts_append.mp drifts
    obtain rfl := (hBefore.stays still).1
    obtain rfl := hBefore.names_eq still named
    rw [drifts_singleton_iff, Exchange.moves_checkout] at hSwitch
    obtain rfl : a = a₀ := by
      rcases List.mem_append.mp ha with ha | ha
      · exact absurd ha (not_mem_of_still still)
      · cases List.mem_singleton.mp ha
        rfl
    refine ⟨⟨named.append, apart⟩, ?_, ?_, ?_, ?_, hSwitch.2⟩
    · simp [error, apart, checkouts_eq_nil_iff.mp still]
    · simp [error]
    · simp [still, checkout?_error error]
    · exact fun _ _ => ⟨List.getLast?_concat, _, rfl⟩
  | @returned t b a' r left =>
    obtain ⟨m, hLeft, hReturn⟩ := drifts_append.mp drifts
    obtain ⟨rfl, rfl⟩ := left.drifts hLeft
    have ok : a.reply = .ok () := by
      rcases List.mem_append.mp ha with ha | ha
      · exact left.ok ha
      · cases List.mem_singleton.mp ha
        exact absurd rfl left.apart
    rw [drifts_singleton_iff, Exchange.moves_checkout] at hReturn
    refine ⟨⟨left.names.append, left.apart⟩, iff_of_true (by simp) ok, by simp, ?_, by simp [ok],
      hReturn.2.symm⟩
    intro hDone
    rw [checkouts_append, left.checkouts_eq] at hDone
    rcases List.mem_append.mp hDone with hAway | hBack
    · cases List.mem_singleton.mp hAway
      exact absurd rfl left.apart
    · exact hReturn.1 (Prod.ext_iff.mp (List.mem_singleton.mp hBack)).2.symm

/--
**A call of a new committer against a wayward repository.** Once the integration branch
was asked for, the way back is taken if that was reported as done, and not if it was
reported as failed, even where the repository is left on the integration branch.
-/
theorem integrate_departs {σ : Type} {script : Script σ} {branch : σ → String}
    (wayward : Wayward script branch) (settings : GitSettings) (description : String)
    (files : List String) (started : Bool) (s : σ) :
    let ran := (integrate settings ⟨.clean, started⟩ description files).run script s
    ∀ a : Answer (.checkout settings.integrationBranch), ⟨_, a⟩ ∈ ran.2.1 →
      Departed settings.integrationBranch (branch s) (branch ran.2.2) a ran.2.1 ran.1.1 := by
  intro ran a ha
  let d := integrate settings ⟨.clean, started⟩ description files
  have hDrifts := wayward.run d s
  rcases integrate_ends (run_leads script d s) with ⟨-, hNil, -⟩ | ⟨-, hEnds⟩
  · rw [show ran.2.1 = [] from hNil] at ha
    cases ha
  · exact (hEnds.passage rfl).departed hDrifts ha

/-- An interrupt kills the switch after it was done. -/
theorem integrate_departs_killed :
    let s : Rehearsal := { checkouts := [⟨true, some (.of "killed"), ()⟩] }
    let ran := (integrate {} ⟨.clean, false⟩ "Fix typo" ["README.md"]).run Rehearsal.straying s
    ran.1.1 = .error .interrupted ∧ ran.2.2.branch = "main" ∧ ∃ a,
      Departed "main" s.branch ran.2.2.branch a ran.2.1 ran.1.1 :=
  ⟨rfl, rfl, ⟨.error (.of "killed"), true⟩, integrate_departs Rehearsal.wayward_straying {}
    "Fix typo" ["README.md"] false _ _ (List.mem_of_getLast? rfl)⟩

/-- A hook fails after the switch: a working branch was named and left, and no return to it
is asked for. -/
theorem integrate_astray :
    let s : Rehearsal := { checkouts := [⟨false, some (.of "hook failed"), ()⟩] }
    let ran := (integrate {} ⟨.clean, false⟩ "Fix typo" ["README.md"]).run Rehearsal.straying s
    Wayward Rehearsal.straying Rehearsal.branch ∧ Names ran.2.1 "work" ∧
      requests ran.2.1 = opening {} "Fix typo" ++ [.checkout "main"] ∧
      .checkout "work" ∉ requests ran.2.1 ∧ s.branch = "work" ∧ ran.2.2.branch = "main" :=
  ⟨Rehearsal.wayward_straying, ⟨_, List.mem_iff_getElem?.mpr ⟨2, rfl⟩, rfl⟩, rfl,
    by decide, rfl, rfl⟩

end Errand.Committer
