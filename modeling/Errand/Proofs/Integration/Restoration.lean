import Errand.Proofs.Integration.Branch
import Errand.Proofs.Integration.Course

/-!
# Errand — back to the working branch

The stage of a committer is all that compensation has to go by, and it
outlives the call that set it. Against an honest repository it can be relied
on: after any number of calls it agrees with the checkout, and a call returns
to the branch it began on unless its very last checkout is refused.

* `Checkpoint.Travelled` — what has been checked out before a checkpoint.
* `Placed`, `Coherent`   — the stage agrees with the checkout, during a call and after it.
* `Ends.coherent`        — a call keeps the agreement.
* `history_coherent`     — so do any calls of one committer, one after the other.
* `integrate_restores`   — one call of a new committer returns to its branch.
-/

namespace Errand.Committer

open Dialogue

variable {settings : GitSettings} {description integration home current b : String}
  {c d d' : Committer} {p : Checkpoint} {t u : List Exchange} {w : Option Warning}

-- ---------------------------------------------------------------------------
-- The way to a checkpoint
-- ---------------------------------------------------------------------------

/-- What was checked out on the way to a checkpoint by a call that began on `home`. -/
def Checkpoint.Travelled (integration home : String) (t : List Exchange) : Checkpoint → Prop
  | .start | .staged => checkouts t = []
  | .committed b => checkouts t = [] ∧ b = home
  | .onIntegration b | .merged b =>
    checkouts t = [(integration, true)] ∧ b = home ∧ home ≠ integration

theorem Reaches.travelled (h : Reaches settings description c p t d) (ht : Truthful home t) :
    p.Travelled settings.integrationBranch home t := by
  induction h with
  | start => rfl
  | staged before go ok ih =>
    have hNone : checkouts _ = [] := ih (truthful_append.mp ht).1
    simp [Checkpoint.Travelled, hNone, Exchange.checkout?]
  | committed before go ok named ih =>
    obtain ⟨hBefore, -, hTold, -⟩ := truthful_append.mp ht
    have hNone : checkouts _ = [] := ih hBefore
    refine ⟨by simp [hNone, Exchange.checkout?], ?_⟩
    -- the answer is true, and nothing was checked out before it
    rw [hTold _ named]
    simp [branchAfter, hNone, Exchange.checkout?]
  | onIntegration before go apart ok ih =>
    obtain ⟨hNone, rfl⟩ := ih (truthful_append.mp ht).1
    refine ⟨?_, rfl, apart⟩
    simp [hNone, checkout?_ok ok]
  | merged before go ok ih =>
    obtain ⟨hOne, hb, apart⟩ := ih (truthful_append.mp ht).1
    refine ⟨?_, hb, apart⟩
    simp [hOne, Exchange.checkout?]

-- ---------------------------------------------------------------------------
-- The stage and the checkout
-- ---------------------------------------------------------------------------

/-- The stage agrees with the branch that is checked out, in a history that began on `home`. -/
structure Placed (integration home current : String) (s : Stage) : Prop where
  committed : ∀ b, s = .committed b → current = b
  away : ∀ b, s.origin? = some b → current = integration ∧ b ≠ integration ∧ b = home
  within : current = home ∨ current = integration

/-- The agreement after a call: a branch that is still to be returned to was refused last. -/
structure Coherent (integration home current : String) (t : List Exchange) (s : Stage) : Prop
    extends Placed integration home current s where
  refused : ∀ b, s.origin? = some b → lastCheckout? t = some (b, false)

/-- To have tried the merge is to be away from the same branch. -/
theorem Placed.mergeAttempted (h : Placed integration home current (.onIntegration b)) :
    Placed integration home current (.mergeAttempted b) :=
  ⟨by simp, fun b' hb' => h.away b' hb', h.within⟩

theorem Coherent.append {s : Stage} (h : Coherent integration home current u s) :
    Coherent integration home current (t ++ u) s :=
  { h with refused := fun b hb => lastCheckout?_append (h.refused b hb) }

/-- The agreement holds at every checkpoint, if it held when the call began. -/
theorem Reaches.placed (h : Reaches settings description c p t d)
    (hc : Placed settings.integrationBranch home current c.stage) (ht : Truthful current t) :
    Placed settings.integrationBranch home (branchAfter current t) d.stage := by
  have hWay := h.travelled ht
  rw [h.stage_eq]
  cases p with
  | start =>
    rw [branchAfter_of_checkouts_nil hWay]
    exact hc
  | staged =>
    rw [branchAfter_of_checkouts_nil hWay]
    exact ⟨by simp [Checkpoint.stage], by simp [Checkpoint.stage, Stage.origin?], hc.within⟩
  | committed b =>
    obtain ⟨hNone, rfl⟩ := hWay
    rw [branchAfter_of_checkouts_nil hNone]
    exact ⟨by simp [Checkpoint.stage], by simp [Checkpoint.stage, Stage.origin?], hc.within⟩
  | onIntegration b | merged b =>
    obtain ⟨hOne, rfl, apart⟩ := hWay
    have hHome : b = home := hc.within.resolve_right apart
    have hAfter : branchAfter b t = settings.integrationBranch := by simp [branchAfter, hOne]
    rw [hAfter]
    exact ⟨by simp [Checkpoint.stage], by simp_all [Checkpoint.stage, Stage.origin?], .inr rfl⟩

/-- A step that fails leaves the checkout alone. -/
theorem Fails.branchAfter_eq {x : List Exchange} {detail : String}
    (h : Fails settings description d p x d' detail) : branchAfter current x = current := by
  cases h with
  | switch apart error => exact branchAfter_checkout_error error
  | _ => exact branchAfter_of_checkouts_nil (by simp [Exchange.checkout?])

/-- A step that fails leaves the stage alone, but for a merge, which is noted before it is tried. -/
theorem Fails.placed {x : List Exchange} {left : Stage} {detail : String}
    (h : Fails settings description d p x d' detail)
    (hp : Placed integration home current d.stage) (hs : d.stage = p.stage left) :
    Placed integration home current d'.stage := by
  cases h with
  | merge error =>
    rw [hs] at hp
    exact hp.mergeAttempted
  | _ => exact hp

theorem Pushes.stage_eq {ws : List Warning} (h : Pushes settings c t ws d) :
    d.stage = c.stage := by
  cases h <;> rfl

theorem Pushes.checkouts_eq {ws : List Warning} (h : Pushes settings c t ws d) :
    checkouts t = [] := by
  cases h <;> simp [Exchange.checkout?]

-- ---------------------------------------------------------------------------
-- The way back
-- ---------------------------------------------------------------------------

theorem Restores.coherent (h : Restores b c t w d)
    (hp : Placed integration home current c.stage) (hb : c.stage.origin? = some b) :
    Coherent integration home (branchAfter current t) t d.stage := by
  cases h with
  | back ok =>
    rw [branchAfter_checkout_ok ok]
    exact ⟨⟨by simp, by simp [Stage.origin?], .inl (hp.away b hb).2.2⟩,
      by simp [Stage.origin?]⟩
  | stuck error =>
    rw [branchAfter_checkout_error error]
    refine ⟨hp, fun b' hb' => ?_⟩
    rw [note_stage, hb] at hb'
    cases hb'
    simp [lastCheckout?, checkout?_error error]

/-- **Compensation** turns the agreement during a call into the one after it. -/
theorem Undoes.coherent (h : Undoes c t d) (hp : Placed integration home current c.stage) :
    Coherent integration home (branchAfter current t) t d.stage := by
  cases h with
  | settled hs => exact ⟨hp, by simp [hs]⟩
  | leave hs restored =>
    have hOrigin := congrArg Stage.origin? hs
    exact restored.coherent hp hOrigin
  | abort hs restored =>
    have hOrigin := congrArg Stage.origin? hs
    rw [branchAfter_cons_of_none rfl]
    exact (restored.coherent hp hOrigin).append (t := [_])

/-- **One call keeps the agreement**, however it ends. -/
theorem Ends.coherent {r : Except RunError Integration}
    (h : Ends settings description c t r d)
    (hc : Placed settings.integrationBranch home current c.stage) (ht : Truthful current t) :
    Coherent settings.integrationBranch home (branchAfter current t) t d.stage := by
  cases h with
  | interrupted reached stop undone =>
    have hp := reached.placed hc (truthful_append.mp ht).1
    rw [branchAfter_append]
    exact (undone.coherent hp).append
  | failed reached go fails undone =>
    have hp := reached.placed hc (truthful_append.mp ht).1
    have hf := fails.placed hp reached.stage_eq
    rw [branchAfter_append, branchAfter_append, fails.branchAfter_eq]
    exact (undone.coherent hf).append.append
  | nothing reached go empty =>
    have hp := reached.placed hc (truthful_append.mp ht).1
    rw [branchAfter_append, branchAfter_of_checkouts_nil (by simp [Exchange.checkout?])]
    exact ⟨hp, by simp [reached.stage_eq, Checkpoint.stage, Stage.origin?]⟩
  | already reached go pushed =>
    have hp := reached.placed hc (truthful_append.mp ht).1
    rw [branchAfter_append, branchAfter_of_checkouts_nil pushed.checkouts_eq]
    rw [← pushed.stage_eq] at hp
    refine ⟨hp, fun b hb => ?_⟩
    rw [pushed.stage_eq, reached.stage_eq] at hb
    cases hb
  | conflict reached go conflict restored =>
    have hp := reached.placed hc (truthful_append.mp ht).1
    rw [reached.stage_eq] at hp
    have hm := hp.mergeAttempted
    rw [branchAfter_append, branchAfter_cons_of_none rfl, branchAfter_cons_of_none rfl]
    exact ((restored.coherent hm rfl).append (t := [_, _])).append
  | merged reached go pushed restored =>
    have hp := reached.placed hc (truthful_append.mp ht).1
    rw [← pushed.stage_eq] at hp
    rw [branchAfter_append, branchAfter_append, branchAfter_of_checkouts_nil pushed.checkouts_eq]
    refine (restored.coherent hp ?_).append.append
    rw [pushed.stage_eq, reached.stage_eq]
    rfl

-- ---------------------------------------------------------------------------
-- Histories of one committer
-- ---------------------------------------------------------------------------

/-- A call in the history of a committer. -/
structure Call where
  description : String
  files : List String
  /-- The cancel token is tripped before the call. -/
  tripped : Bool := false

/-- Calls of one committer, one after the other; a token once tripped stays tripped. -/
def history (settings : GitSettings) (c : Committer) : List Call → Dialogue Committer
  | [] => pure c
  | call :: rest => do
    let c := { c with interrupted := c.interrupted || call.tripped }
    let (_, c) ← c.integrate settings call.description call.files
    history settings c rest

theorem history_leads_coherent {calls : List Call}
    (hc : Coherent settings.integrationBranch home current t c.stage)
    (h : (history settings c calls).Leads u d) (hu : Truthful current u) :
    Coherent settings.integrationBranch home (branchAfter current u) (t ++ u) d.stage := by
  induction calls generalizing c t u current with
  | nil =>
    obtain ⟨rfl, rfl⟩ := leads_pure_iff.mp h
    rw [List.append_nil]
    exact hc
  | cons call rest ih =>
    unfold history at h
    rw [leads_bind_iff] at h
    obtain ⟨u₁, ⟨r, c₁⟩, u₂, rfl, hi, hRest⟩ := h
    obtain ⟨hu₁, hu₂⟩ := truthful_append.mp hu
    rw [branchAfter_append, ← List.append_assoc]
    refine ih ?_ hRest hu₂
    rcases integrate_ends hi with ⟨-, rfl, -, rfl⟩ | ⟨-, hEnds⟩
    · rw [List.append_nil]
      exact hc
    · exact (hEnds.coherent hc.toPlaced hu₁).append

/--
**The stage and the checkout agree after any history.** One committer is
called any number of times, with any descriptions and files, against any
honest repository that began on any branch, and the token is tripped wherever
it may be. Every history is the beginning of longer ones, so the agreement
holds after each call: a committer that is settled on a branch has it checked
out; one that is still to return from the integration branch stands there,
and the last checkout was the refused return; and no third branch is ever
checked out.
-/
theorem history_coherent {σ : Type} {script : Script σ} {branch : σ → String}
    (honest : Honest script branch) (settings : GitSettings) (calls : List Call) (s : σ) :
    let ran := (history settings {} calls).run script s
    Coherent settings.integrationBranch (branch s) (branch ran.2.2) ran.2.1 ran.1.stage := by
  intro ran
  obtain ⟨hTruthful, hBranch⟩ := honest.run (history settings {} calls) s
  have hStart : Coherent settings.integrationBranch (branch s) (branch s) [] .clean :=
    ⟨⟨by simp, by simp [Stage.origin?], .inl rfl⟩, by simp [Stage.origin?]⟩
  rw [hBranch]
  exact history_leads_coherent hStart (run_leads script (history settings {} calls) s) hTruthful

/-- A history whose return was refused: the merge is noted, and the checkout is
still on the integration branch. -/
theorem history_coherent_refused :
    let s : Rehearsal := { checkouts := [⟨false, none, ()⟩, ⟨false, some (.of "locked"), ()⟩] }
    let ran := (history {} {} [⟨"Fix typo", ["README.md"], false⟩]).run Rehearsal.truthful s
    ran.1.stage = .mergeAttempted "work" ∧
      Coherent "main" s.branch ran.2.2.branch ran.2.1 ran.1.stage :=
  ⟨rfl, history_coherent Rehearsal.honest_truthful {} _ _⟩

-- ---------------------------------------------------------------------------
-- One call of a new committer
-- ---------------------------------------------------------------------------

/-- The last exchange is a checkout of this branch, and it was refused. -/
def EndsRefused (b : String) (t : List Exchange) : Prop :=
  t.getLast?.bind Exchange.checkout? = some (b, false)

theorem EndsRefused.mem_checkouts (h : EndsRefused b t) : (b, false) ∈ checkouts t := by
  obtain ⟨e, he, hb⟩ := Option.bind_eq_some_iff.mp h
  exact List.mem_filterMap.mpr ⟨e, List.mem_of_getLast? he, hb⟩

/--
A call that began on `home` has come home, or its very last checkout, the one
of `home`, was refused; of an integration that came to a result, the last
warning tells which.
-/
structure Returned (integration home current : String) (t : List Exchange)
    (r : Except RunError Integration) : Prop where
  back : ¬ EndsRefused home t → current = home
  away : EndsRefused home t → current = integration ∧ home ≠ integration
  warned : ∀ i, r = .ok i →
    (current ≠ home ↔ ∃ detail, .branchNotRestored home detail ∈ i.warnings)
  last : ∀ i, r = .ok i → ∀ detail, .branchNotRestored home detail ∈ i.warnings →
    i.warnings.getLast? = some (.branchNotRestored home detail)

/-- A call that never left has returned. -/
theorem Returned.of_home {r : Except RunError Integration} (hNot : (home, false) ∉ checkouts t)
    (hw : ∀ i, r = .ok i → ∀ detail, .branchNotRestored home detail ∉ i.warnings) :
    Returned integration home home t r where
  back _ := rfl
  away h := absurd h.mem_checkouts hNot
  warned i hi := by simpa using hw i hi
  last i hi detail hm := absurd hm (hw i hi detail)

/-- Where a call stands that began on `home`: there still, or on the integration branch. -/
def Standing (integration home : String) (t : List Exchange) (s : Stage) : Prop :=
  (s.origin? = none ∧ branchAfter home t = home ∧ (home, false) ∉ checkouts t) ∨
    (s.origin? = some home ∧ branchAfter home t = integration ∧ home ≠ integration)

theorem Reaches.standing (h : Reaches settings description c p t d)
    (hf : c.stage.origin? = none) (ht : Truthful home t) :
    Standing settings.integrationBranch home t d.stage := by
  have hWay := h.travelled ht
  rw [h.stage_eq]
  cases p with
  | start =>
    have hNone : checkouts t = [] := hWay
    exact .inl ⟨hf, branchAfter_of_checkouts_nil hNone, by simp [hNone]⟩
  | staged =>
    have hNone : checkouts t = [] := hWay
    exact .inl ⟨rfl, branchAfter_of_checkouts_nil hNone, by simp [hNone]⟩
  | committed b =>
    obtain ⟨hNone, rfl⟩ := hWay
    exact .inl ⟨rfl, branchAfter_of_checkouts_nil hNone, by simp [hNone]⟩
  | onIntegration b | merged b =>
    obtain ⟨hOne, rfl, apart⟩ := hWay
    exact .inr ⟨rfl, by simp [branchAfter, hOne], apart⟩

theorem Restores.returned {r : Except RunError Integration} (h : Restores home c u w d)
    (hAt : branchAfter home t = integration) (apart : home ≠ integration)
    (hw : ∀ i, r = .ok i → ∃ ws, i.warnings = ws ++ w.toList ∧
      ∀ detail, .branchNotRestored home detail ∉ ws) :
    Returned integration home (branchAfter home (t ++ u)) (t ++ u) r := by
  rw [branchAfter_append, hAt]
  cases h with
  | back ok =>
    rw [branchAfter_checkout_ok ok]
    refine ⟨fun _ => rfl, fun hr => ?_, fun i hi => ?_, fun i hi detail hm => ?_⟩
    · simp [EndsRefused, checkout?_ok ok] at hr
    · obtain ⟨ws, hws, hNot⟩ := hw i hi
      simp [hws, hNot]
    · obtain ⟨ws, hws, hNot⟩ := hw i hi
      simp [hws, hNot] at hm
  | @stuck a e error =>
    rw [branchAfter_checkout_error error]
    have hr : EndsRefused home (t ++ [⟨.checkout home, a⟩]) := by
      simp [EndsRefused, checkout?_error error]
    refine ⟨fun hn => absurd hr hn, fun _ => ⟨rfl, apart⟩, fun i hi => ?_, fun i hi detail hm => ?_⟩
    · obtain ⟨ws, hws, -⟩ := hw i hi
      exact ⟨fun _ => ⟨e.text, by simp [hws]⟩, fun _ => apart.symm⟩
    · obtain ⟨ws, hws, hNot⟩ := hw i hi
      rw [hws] at hm ⊢
      rcases List.mem_append.mp hm with hm | hm
      · exact absurd hm (hNot detail)
      · simp_all

/-- Exchanges that check nothing out leave a call where it stands. -/
theorem Standing.append {s : Stage} (h : Standing integration home t s)
    (hu : checkouts u = []) : Standing integration home (t ++ u) s := by
  rcases h with ⟨hs, hAfter, hNot⟩ | ⟨hs, hAfter, apart⟩
  · exact .inl ⟨hs, by rw [branchAfter_append, hAfter, branchAfter_of_checkouts_nil hu],
      by simp [hNot, hu]⟩
  · exact .inr ⟨hs, by rw [branchAfter_append, hAfter, branchAfter_of_checkouts_nil hu], apart⟩

/-- A call that stands at home and checks nothing more out has returned. -/
theorem Standing.returned {s : Stage} {r : Except RunError Integration}
    (h : Standing integration home t s) (hs : s.origin? = none) (hu : checkouts u = [])
    (hw : ∀ i, r = .ok i → ∀ detail, .branchNotRestored home detail ∉ i.warnings) :
    Returned integration home (branchAfter home (t ++ u)) (t ++ u) r := by
  rcases h.append hu with ⟨-, hAfter, hNot⟩ | ⟨hLeft, -⟩
  · rw [hAfter]
    exact .of_home hNot hw
  · rw [hs] at hLeft
    cases hLeft

/-- A call that has a branch to return to stands on the integration branch. -/
theorem Standing.left {s : Stage} (h : Standing integration home t s)
    (hs : s.origin? = some b) :
    b = home ∧ branchAfter home t = integration ∧ home ≠ integration := by
  rcases h with ⟨hStay, -⟩ | ⟨hLeft, hAfter, apart⟩
  · rw [hs] at hStay
    cases hStay
  · rw [hs] at hLeft
    exact ⟨Option.some.inj hLeft, hAfter, apart⟩

/-- A refused switch to the integration branch leaves a call at home; it is no refused return. -/
theorem Fails.standing {x : List Exchange} {detail : String}
    (h : Fails settings description d p x d' detail)
    (hs : Standing settings.integrationBranch home t d.stage) (hd : d.stage = p.stage c.stage)
    (hb : p.Travelled settings.integrationBranch home t) :
    Standing settings.integrationBranch home (t ++ x) d'.stage := by
  cases h with
  | switch apart error =>
    obtain ⟨hNone, rfl⟩ := hb
    refine .inl ⟨by rw [note_stage, hd]; rfl, ?_, ?_⟩
    · rw [branchAfter_append, branchAfter_of_checkouts_nil hNone,
        branchAfter_checkout_error error]
    · simp [hNone, checkout?_error error, apart]
  | merge error =>
    rw [hd] at hs
    exact hs.append rfl
  | _ => exact hs.append rfl

/-- **Compensation returns** a call from wherever it stands. -/
theorem Undoes.returned {e : RunError} (h : Undoes c u d)
    (hs : Standing integration home t c.stage) :
    Returned integration home (branchAfter home (t ++ u)) (t ++ u) (.error e) := by
  cases h with
  | settled h => exact hs.returned h rfl (by simp)
  | leave h restored =>
    obtain ⟨rfl, hAfter, apart⟩ := hs.left (congrArg Stage.origin? h)
    exact restored.returned hAfter apart (by simp)
  | abort h restored =>
    obtain ⟨rfl, hAfter, apart⟩ := hs.left (congrArg Stage.origin? h)
    rw [List.append_cons]
    refine restored.returned ?_ apart (by simp)
    rw [branchAfter_append, hAfter]
    exact branchAfter_of_checkouts_nil rfl

theorem Pushes.not_branchNotRestored {ws : List Warning} {detail : String}
    (h : Pushes settings c t ws d) : .branchNotRestored b detail ∉ ws := by
  cases h <;> simp

/-- **One call of a settled committer returns**, however it ends. -/
theorem Ends.returned {r : Except RunError Integration}
    (h : Ends settings description c t r d) (hf : c.stage.origin? = none)
    (ht : Truthful home t) :
    Returned settings.integrationBranch home (branchAfter home t) t r := by
  cases h with
  | interrupted reached stop undone =>
    have hs := reached.standing hf (truthful_append.mp ht).1
    exact undone.returned hs
  | failed reached go fails undone =>
    have hReached := (truthful_append.mp ht).1
    have hs := fails.standing (reached.standing hf hReached) reached.stage_eq
      (reached.travelled hReached)
    rw [← List.append_assoc]
    exact undone.returned hs
  | nothing reached go empty =>
    have hs := reached.standing hf (truthful_append.mp ht).1
    exact hs.returned (by rw [reached.stage_eq]; rfl) rfl (by simp)
  | already reached go pushed =>
    have hs := reached.standing hf (truthful_append.mp ht).1
    refine hs.returned (by rw [reached.stage_eq]; rfl) pushed.checkouts_eq fun i hi detail => ?_
    cases hi
    exact pushed.not_branchNotRestored
  | conflict reached go conflict restored =>
    have hs := reached.standing hf (truthful_append.mp ht).1
    obtain ⟨rfl, hAfter, apart⟩ := hs.left (by rw [reached.stage_eq]; rfl)
    rw [List.append_cons, List.append_cons]
    refine restored.returned ?_ apart fun i hi => ?_
    · rw [branchAfter_append, branchAfter_append, hAfter]
      rfl
    · cases hi
      exact ⟨_, rfl, by simp⟩
  | merged reached go pushed restored =>
    have hs := reached.standing hf (truthful_append.mp ht).1
    obtain ⟨rfl, hAfter, apart⟩ := hs.left (by rw [reached.stage_eq]; rfl)
    rw [← List.append_assoc]
    refine restored.returned ?_ apart fun i hi => ?_
    · rw [branchAfter_append, hAfter, branchAfter_of_checkouts_nil pushed.checkouts_eq]
    · cases hi
      exact ⟨_, rfl, fun detail => pushed.not_branchNotRestored⟩

/--
**A call of a new committer returns to the branch it began on**, whatever its
result and wherever the token is tripped, unless its very last question was a
checkout of that branch and was refused; then the integration branch is still
checked out. An integration that came to a result says so in its last warning.
-/
theorem integrate_restores {σ : Type} {script : Script σ} {branch : σ → String}
    (honest : Honest script branch) (settings : GitSettings) (description : String)
    (files : List String) (started : Bool) (s : σ) :
    let ran := (integrate settings ⟨.clean, started⟩ description files).run script s
    Returned settings.integrationBranch (branch s) (branch ran.2.2) ran.2.1 ran.1.1 := by
  intro ran
  let d := integrate settings ⟨.clean, started⟩ description files
  obtain ⟨hTruthful, hBranch⟩ := honest.run d s
  rw [hBranch]
  rcases integrate_ends (run_leads script d s) with ⟨-, hNil, hr, -⟩ | ⟨-, hEnds⟩
  · show Returned _ _ (branchAfter _ ran.2.1) ran.2.1 ran.1.1
    rw [show ran.2.1 = [] from hNil, show ran.1.1 = .ok ⟨true, []⟩ from hr]
    exact .of_home (by simp) fun i hi => by cases hi; simp
  · exact hEnds.returned rfl hTruthful

/-- An interrupt during a merge that fails, and a return that is refused. -/
theorem integrate_restores_refused :
    let s : Rehearsal :=
      { merges := [⟨true, some (.of "killed"), .merged⟩],
        checkouts := [⟨false, none, ()⟩, ⟨false, some (.of "locked"), ()⟩] }
    let ran := (integrate {} ⟨.clean, false⟩ "Fix typo" ["README.md"]).run Rehearsal.truthful s
    ran.2.2.branch = "main" ∧ Returned "main" s.branch ran.2.2.branch ran.2.1 ran.1.1 :=
  ⟨rfl, integrate_restores Rehearsal.honest_truthful {} _ _ _ _⟩

end Errand.Committer
