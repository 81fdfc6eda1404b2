import Errand.Proofs.Integration.Course
import Errand.Proofs.Run.Course

/-!
# Errand — who is asked

Every question of a run goes to one of four parties, who know nothing of each
other. What a party knows of a run is what it was asked itself, so the answers
of one party can be compared between two runs: asked the same, it answers the
same. Two runs whose parties all do are the same run.

* `Party`, `Request.party` — the four parties, and who is asked what.
* `AskedOf`, `heard`       — all of a trace, or the part of it, that one party was asked.
* `Alike`                  — asked the same, a party answers the same in two runs.
* `leads_unique`           — runs in which every party answers alike are one run.
* `Publishes.askedOf`, `Committer.integrate_askedOf`, `Concludes.askedOf` — whom each part
  of a run asks.
-/

namespace Errand

/-- Those whom a run asks. -/
inductive Party where
  | agent
  | tracker
  | repository
  | messenger
  deriving DecidableEq, Repr

/-- Who is asked. -/
def Request.party : Request → Party
  | .invoke _ => .agent
  | .createIssue _ => .tracker
  | .stageAll | .commit _ | .currentBranch | .checkout _ | .merge _ | .abortMerge
  | .push _ _ => .repository
  | .send _ _ => .messenger

namespace Dialogue

variable {α β : Type} {p q : Party} {e : Exchange} {t u v : List Exchange}

-- ---------------------------------------------------------------------------
-- A party's part of a trace
-- ---------------------------------------------------------------------------

/-- Only this party is asked. -/
def AskedOf (p : Party) (t : List Exchange) : Prop := ∀ e ∈ t, e.request.party = p

/-- What one party hears of a trace. -/
def heard (p : Party) (t : List Exchange) : List Exchange :=
  t.filter fun e => e.request.party = p

theorem askedOf_nil : AskedOf p [] := fun _ h => absurd h List.not_mem_nil

@[simp]
theorem askedOf_cons : AskedOf p (e :: t) ↔ e.request.party = p ∧ AskedOf p t := by
  simp [AskedOf]

@[simp]
theorem askedOf_append : AskedOf p (t ++ u) ↔ AskedOf p t ∧ AskedOf p u := by
  simp [AskedOf, or_imp, forall_and]

@[simp]
theorem heard_nil : heard p [] = [] := rfl

theorem heard_cons_self (h : e.request.party = p) : heard p (e :: t) = e :: heard p t := by
  simp [heard, h]

theorem heard_cons_other (h : e.request.party ≠ p) : heard p (e :: t) = heard p t := by
  simp [heard, h]

@[simp]
theorem heard_append : heard p (t ++ u) = heard p t ++ heard p u := List.filter_append ..

/-- A party that is the only one asked hears everything. -/
theorem AskedOf.heard_self (h : AskedOf p t) : heard p t = t := by
  rw [heard, List.filter_eq_self]
  intro e he
  simpa using h e he

/-- A party that is not asked hears nothing. -/
theorem AskedOf.heard_other (h : AskedOf p t) (hq : q ≠ p) : heard q t = [] := by
  rw [heard, List.filter_eq_nil_iff]
  intro e he
  simpa [h e he] using hq.symm

/-- What another party was asked before is not heard. -/
theorem AskedOf.heard_append_other (h : AskedOf p t) (hq : q ≠ p) :
    heard q (t ++ u) = heard q u := by
  rw [heard_append, h.heard_other hq, List.nil_append]

-- ---------------------------------------------------------------------------
-- The same answers in two runs
-- ---------------------------------------------------------------------------

/--
Of two traces of one party, the exchanges are the same as long as the questions
are. After a question that differs the party may answer as it likes.
-/
inductive Alike : List Exchange → List Exchange → Prop
  | nil_left {t : List Exchange} : Alike [] t
  | nil_right {t : List Exchange} : Alike t []
  | same {e : Exchange} {t u : List Exchange} (rest : Alike t u) : Alike (e :: t) (e :: u)
  | apart {e e' : Exchange} {t u : List Exchange} (h : e.request ≠ e'.request) :
      Alike (e :: t) (e' :: u)

theorem Alike.refl (t : List Exchange) : Alike t t := by
  induction t with
  | nil => exact .nil_left
  | cons e t ih => exact .same ih

theorem Alike.symm (h : Alike t u) : Alike u t := by
  induction h with
  | nil_left => exact .nil_right
  | nil_right => exact .nil_left
  | same rest ih => exact .same ih
  | apart h => exact .apart h.symm

/-- The first answers to one question are the same, and so it goes on. -/
theorem Alike.cons_inv {r : Request} {a b : Answer r} (h : Alike (⟨r, a⟩ :: t) (⟨r, b⟩ :: u)) :
    a = b ∧ Alike t u := by
  cases h with
  | same rest => exact ⟨rfl, rest⟩
  | apart h => exact absurd rfl h

/-- What is alike was so all the time. -/
theorem Alike.of_append_right (h : Alike t (u ++ v)) : Alike t u := by
  induction u generalizing t with
  | nil => exact .nil_right
  | cons e u ih =>
    cases h with
    | nil_left => exact .nil_left
    | same rest => exact .same (ih rest)
    | apart h => exact .apart h

theorem Alike.of_append {w : List Exchange} (h : Alike (t ++ v) (u ++ w)) : Alike t u :=
  h.of_append_right.symm.of_append_right.symm

/-- After a common beginning, what is left is alike. -/
theorem Alike.of_append_same (h : Alike (t ++ u) (t ++ v)) : Alike u v := by
  induction t with
  | nil => exact h
  | cons e t ih =>
    cases h with
    | same rest => exact ih rest
    | apart h => exact absurd rfl h

/--
**A dialogue whose parties all answer alike goes the same way.** The induction
is on the dialogue: both courses ask the same first question, whose party
answers it the same, and what every party hears afterwards is still alike.
-/
theorem leads_unique {d : Dialogue α} {a b : α} (ht : d.Leads t a) (hu : d.Leads u b)
    (alike : ∀ p, Alike (heard p t) (heard p u)) : t = u ∧ a = b := by
  induction ht generalizing u b with
  | done a =>
    obtain ⟨rfl, rfl⟩ := leads_done_iff.mp hu
    exact ⟨rfl, rfl⟩
  | @ask r next answer t a ht ih =>
    obtain ⟨answer', u, rfl, hNext⟩ := leads_ask_iff.mp hu
    have hFirst := alike r.party
    rw [heard_cons_self (p := r.party) rfl, heard_cons_self (p := r.party) rfl] at hFirst
    obtain ⟨rfl, hOwn⟩ := hFirst.cons_inv
    have hRest : ∀ p, Alike (heard p t) (heard p u) := by
      intro p
      by_cases hp : r.party = p
      · subst hp
        exact hOwn
      · have hOther := alike p
        rwa [heard_cons_other hp, heard_cons_other hp] at hOther
    obtain ⟨rfl, rfl⟩ := ih hNext hRest
    exact ⟨rfl, rfl⟩

/-- The same for a dialogue with one party, whose trace may go on in the second run. -/
theorem leads_unique_of_askedOf {d : Dialogue α} {a b : α} (ht : d.Leads t a) (hu : d.Leads u b)
    (hpt : AskedOf p t) (hpu : AskedOf p u) (alike : Alike t (u ++ v)) : t = u ∧ a = b := by
  refine leads_unique ht hu fun q => ?_
  by_cases hq : q = p
  · subst hq
    rw [hpt.heard_self, hpu.heard_self]
    exact alike.of_append_right
  · rw [hpt.heard_other hq, hpu.heard_other hq]
    exact .nil_left

end Dialogue

-- ---------------------------------------------------------------------------
-- Whom each part of a run asks
-- ---------------------------------------------------------------------------

open Dialogue (Exchange AskedOf)

variable {t : List Exchange} {i i' : Bool}

/-- The filing of issues asks the tracker alone. -/
theorem Publishes.askedOf {settings : TrackerSettings} {p : Publication}
    {issues : List DiscoveredIssue} {r : Except RunError Publication}
    (h : Publishes settings i p issues t r i') : AskedOf .tracker t := by
  induction h with
  | done | interrupted => exact Dialogue.askedOf_nil
  | filed others ih => exact Dialogue.askedOf_cons.mpr ⟨rfl, ih⟩

/-- The reply asks the messenger alone. -/
theorem Concludes.askedOf {settings : NotifySettings} {recipient : Option String} {o : Outcome}
    {r : Except RunError Outcome} (h : Concludes settings recipient o i t r i') :
    AskedOf .messenger t := by
  cases h with
  | interrupted | nobody none => exact Dialogue.askedOf_nil
  | killed some trips | told some calm => simp [AskedOf, Request.party]

namespace Committer

variable {settings : GitSettings} {description b : String} {c d d' : Committer} {p : Checkpoint}

theorem Restores.askedOf {w : Option Warning} (h : Restores b c t w d) :
    AskedOf .repository t := by
  cases h <;> simp [AskedOf, Request.party]

theorem Undoes.askedOf (h : Undoes c t d) : AskedOf .repository t := by
  cases h with
  | settled h => exact Dialogue.askedOf_nil
  | leave h restored => exact restored.askedOf
  | abort h restored => exact Dialogue.askedOf_cons.mpr ⟨rfl, restored.askedOf⟩

theorem Pushes.askedOf {ws : List Warning} (h : Pushes settings c t ws d) :
    AskedOf .repository t := by
  cases h <;> simp [AskedOf, Request.party]

theorem Reaches.askedOf (h : Reaches settings description c p t d) : AskedOf .repository t := by
  induction h with
  | start => exact Dialogue.askedOf_nil
  | staged before go ok ih | committed before go ok named ih
  | onIntegration before go apart ok ih | merged before go ok ih =>
    simp [ih, Request.party, Dialogue.askedOf_nil]

theorem Fails.askedOf {detail : String} (h : Fails settings description d p t d' detail) :
    AskedOf .repository t := by
  cases h <;> simp [AskedOf, Request.party]

theorem Ends.askedOf {r : Except RunError Integration} (h : Ends settings description c t r d) :
    AskedOf .repository t := by
  cases h with
  | interrupted reached stop undone =>
    exact Dialogue.askedOf_append.mpr ⟨reached.askedOf, undone.askedOf⟩
  | failed reached go fails undone =>
    simp [reached.askedOf, fails.askedOf, undone.askedOf]
  | nothing reached go empty =>
    simp [reached.askedOf, Request.party, Dialogue.askedOf_nil]
  | already reached go pushed =>
    exact Dialogue.askedOf_append.mpr ⟨reached.askedOf, pushed.askedOf⟩
  | conflict reached go conflict restored =>
    simp [reached.askedOf, restored.askedOf, Request.party]
  | merged reached go pushed restored =>
    simp [reached.askedOf, pushed.askedOf, restored.askedOf]

/-- An integration asks the repository alone. -/
theorem integrate_askedOf {files : List String} {r : Except RunError Integration}
    (h : (integrate settings c description files).Leads t (r, d)) : AskedOf .repository t := by
  rcases integrate_ends h with ⟨-, rfl, -, -⟩ | ⟨-, hEnds⟩
  · exact Dialogue.askedOf_nil
  · exact hEnds.askedOf

end Committer

end Errand
