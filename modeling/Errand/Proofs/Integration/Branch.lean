import Errand.Rehearsal
import Errand.Proofs.Dialogue

/-!
# Errand — the branch that is checked out

Which branch is checked out can be read off a trace, as long as the repository
is **honest** about it: only a checkout that succeeds changes the branch, and
the question for the branch is answered with it.

* `Honest`       — the repository is honest about branches.
* `checkouts`, `branchAfter`, `lastCheckout?` — what a trace does to the branch.
* `Truthful`     — what a trace tells about the branch is true.
* `Honest.run`   — a run against an honest repository has a truthful trace, and
  ends on the branch that the trace says.
* `Rehearsal.honest_truthful` — rehearsed collaborators can be honest.
-/

namespace Errand.Dialogue

variable {σ α : Type}

-- ---------------------------------------------------------------------------
-- Branches in a trace
-- ---------------------------------------------------------------------------

/-- The branch of a checkout, and whether it was checked out. -/
def Exchange.checkout? : Exchange → Option (String × Bool)
  | ⟨.checkout b, a⟩ => some (b, a.reply.toBool)
  | _ => none

/-- All checkouts of a trace, in order. -/
def checkouts (t : List Exchange) : List (String × Bool) := t.filterMap Exchange.checkout?

/-- The last checkout of a trace. -/
def lastCheckout? (t : List Exchange) : Option (String × Bool) := (checkouts t).getLast?

/-- The branch that is checked out after a trace that began on the current one. -/
def branchAfter (current : String) (t : List Exchange) : String :=
  (checkouts t).foldl (fun b x => if x.2 then x.1 else b) current

/-- The question for the branch, if it is answered, is answered with the current one. -/
def Exchange.Tells (current : String) : Exchange → Prop
  | ⟨.currentBranch, a⟩ => ∀ b, a.reply = .ok b → b = current
  | _ => True

/-- All answers of a trace about the branch are true. -/
def Truthful (current : String) : List Exchange → Prop
  | [] => True
  | e :: t => e.Tells current ∧ Truthful (branchAfter current [e]) t

@[simp]
theorem checkouts_nil : checkouts [] = [] := rfl

@[simp]
theorem checkouts_cons (e : Exchange) (t : List Exchange) :
    checkouts (e :: t) = e.checkout?.toList ++ checkouts t := by
  unfold checkouts
  rw [List.filterMap_cons]
  cases e.checkout? <;> rfl

@[simp]
theorem checkouts_append (t u : List Exchange) :
    checkouts (t ++ u) = checkouts t ++ checkouts u := List.filterMap_append

theorem branchAfter_append (current : String) (t u : List Exchange) :
    branchAfter current (t ++ u) = branchAfter (branchAfter current t) u := by
  rw [branchAfter, checkouts_append, List.foldl_append]
  rfl

theorem checkout?_ok {b : String} {a : Answer (.checkout b)} (ok : a.reply = .ok ()) :
    Exchange.checkout? ⟨.checkout b, a⟩ = some (b, true) := by
  simp [Exchange.checkout?, ok, Except.toBool]

theorem checkout?_error {b : String} {a : Answer (.checkout b)} {e : Failure}
    (error : a.reply = .error e) : Exchange.checkout? ⟨.checkout b, a⟩ = some (b, false) := by
  simp [Exchange.checkout?, error, Except.toBool]

theorem branchAfter_checkout_ok {current b : String} {a : Answer (.checkout b)}
    (ok : a.reply = .ok ()) : branchAfter current [⟨.checkout b, a⟩] = b := by
  simp [branchAfter, checkout?_ok ok]

theorem branchAfter_checkout_error {current b : String} {a : Answer (.checkout b)} {e : Failure}
    (error : a.reply = .error e) : branchAfter current [⟨.checkout b, a⟩] = current := by
  simp [branchAfter, checkout?_error error]

theorem branchAfter_of_checkouts_nil {current : String} {t : List Exchange}
    (h : checkouts t = []) : branchAfter current t = current := by
  rw [branchAfter, h]
  rfl

theorem branchAfter_cons_of_none {current : String} {e : Exchange} {t : List Exchange}
    (h : e.checkout? = none) : branchAfter current (e :: t) = branchAfter current t := by
  simp [branchAfter, h]

theorem lastCheckout?_append {t u : List Exchange} {x : String × Bool}
    (h : lastCheckout? u = some x) : lastCheckout? (t ++ u) = some x := by
  unfold lastCheckout? at h ⊢
  rw [checkouts_append, List.getLast?_append, h]
  rfl

theorem truthful_append {current : String} {t u : List Exchange} :
    Truthful current (t ++ u) ↔
      Truthful current t ∧ Truthful (branchAfter current t) u := by
  induction t generalizing current with
  | nil => simp [Truthful, branchAfter]
  | cons e t ih =>
    have hCons : branchAfter current (e :: t) = branchAfter (branchAfter current [e]) t :=
      branchAfter_append current [e] t
    rw [hCons]
    simp only [List.cons_append, Truthful, ih, and_assoc]

-- ---------------------------------------------------------------------------
-- Honest repositories
-- ---------------------------------------------------------------------------

/-- The repository is honest about branches; `branch` is the one that is checked out. -/
structure Honest (script : Script σ) (branch : σ → String) : Prop where
  /-- A checkout that succeeds makes its branch the current one. -/
  checkout_ok : ∀ b s, (script (.checkout b) s).1.reply = .ok () →
    branch (script (.checkout b) s).2 = b
  /-- A checkout that fails changes nothing. -/
  checkout_error : ∀ b s e, (script (.checkout b) s).1.reply = .error e →
    branch (script (.checkout b) s).2 = branch s
  /-- Nothing else changes the current branch. -/
  other : ∀ r s, (∀ b, r ≠ .checkout b) → branch (script r s).2 = branch s
  /-- The current branch, if it is told, is told as it is. -/
  currentBranch_ok : ∀ s b, (script .currentBranch s).1.reply = .ok b → b = branch s

/-- One exchange with an honest repository: its branch moves as the trace says,
and what it tells is true. -/
theorem Honest.exchange {script : Script σ} {branch : σ → String} (h : Honest script branch)
    (r : Request) (s : σ) :
    branch (script r s).2 = branchAfter (branch s) [⟨r, (script r s).1⟩] ∧
      Exchange.Tells (branch s) ⟨r, (script r s).1⟩ := by
  cases r with
  | checkout b =>
    refine ⟨?_, trivial⟩
    cases hr : (script (.checkout b) s).1.reply with
    | ok x =>
      rw [h.checkout_ok b s hr, branchAfter_checkout_ok hr]
    | error e =>
      rw [h.checkout_error b s e hr, branchAfter_checkout_error hr]
  | currentBranch => exact ⟨h.other _ s (by simp), h.currentBranch_ok s⟩
  | _ => exact ⟨h.other _ s (by simp), trivial⟩

/-- **A run against an honest repository**: its trace is truthful, and the branch
at the end is the one that the trace says. -/
theorem Honest.run {script : Script σ} {branch : σ → String} (h : Honest script branch)
    (d : Dialogue α) (s : σ) :
    Truthful (branch s) (d.run script s).2.1 ∧
      branch (d.run script s).2.2 = branchAfter (branch s) (d.run script s).2.1 := by
  induction d generalizing s with
  | done a => exact ⟨trivial, rfl⟩
  | ask r next ih =>
    obtain ⟨hb, ht⟩ := h.exchange r s
    obtain ⟨hTruthful, hAfter⟩ := ih (script r s).1 (script r s).2
    rw [hb] at hTruthful hAfter
    refine ⟨⟨ht, hTruthful⟩, hAfter.trans ?_⟩
    exact (branchAfter_append (branch s) [⟨r, (script r s).1⟩] _).symm

end Errand.Dialogue

namespace Errand.Rehearsal

/-- The script that takes the next cues, but names no branch other than the
one that is checked out. -/
def truthful : Dialogue.Script Rehearsal := fun r s =>
  answer r { s with branches := s.branches.map fun cue => { cue with value := none } }

/-- Rehearsed collaborators that name no other branch are honest. -/
theorem honest_truthful : Dialogue.Honest truthful Rehearsal.branch where
  checkout_ok b s h := by
    simp only [truthful, answer, respond, trip, Cue.reply] at h ⊢
    split at h <;> simp_all
  checkout_error b s e h := by
    simp only [truthful, answer, respond, trip, Cue.reply] at h ⊢
    split at h <;> simp_all
  other r s h := by
    cases r <;> simp_all [truthful, answer, respond, trip]
  currentBranch_ok s b h := by
    simp only [truthful, answer, respond, Cue.reply] at h
    cases hs : s.branches with
    | nil =>
      rw [hs] at h
      cases h
      rfl
    | cons cue rest =>
      rw [hs] at h
      simp only [List.map_cons, Cue.next] at h
      split at h
      · cases h
      · cases h
        rfl

end Errand.Rehearsal
