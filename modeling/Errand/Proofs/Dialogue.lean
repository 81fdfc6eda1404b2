import Errand.Dialogue

/-!
# Errand — what a dialogue can go through

A dialogue asks, and what becomes of it depends on the answers. The relation
here forgets who answers: it says which traces some answers can lead to, and
to which value. Whatever holds of all of them holds of every run, against any
script.

* `Leads`       — a trace and a value that some answers lead a dialogue to.
* `leads_bind_iff` — a course in two parts is a course of each part.
* `run_leads`   — every run is one of these courses.
* `run_forall`  — what a script keeps to, every exchange of a run keeps to.
* `play_run`    — a state monad that answers is a script.
* `tripped`     — the cancel token was tripped somewhere in a trace.
-/

namespace Errand.Dialogue

variable {α β σ : Type}

-- ---------------------------------------------------------------------------
-- Courses
-- ---------------------------------------------------------------------------

/-- Some answers lead the dialogue through this trace to this value. -/
inductive Leads : Dialogue α → List Exchange → α → Prop
  | done (a : α) : Leads (.done a) [] a
  | ask {r : Request} {next : Answer r → Dialogue α} (answer : Answer r) {t : List Exchange}
      {a : α} (h : Leads (next answer) t a) : Leads (.ask r next) (⟨r, answer⟩ :: t) a

theorem leads_done_iff {a b : α} {t : List Exchange} :
    (Dialogue.done a).Leads t b ↔ t = [] ∧ b = a := by
  constructor
  · intro h
    cases h
    exact ⟨rfl, rfl⟩
  · rintro ⟨rfl, rfl⟩
    exact .done _

/-- The monad's `pure` is the dialogue that is over. -/
theorem leads_pure_iff {a b : α} {t : List Exchange} :
    (pure a : Dialogue α).Leads t b ↔ t = [] ∧ b = a := leads_done_iff

theorem leads_ask_iff {r : Request} {next : Answer r → Dialogue α} {a : α}
    {t : List Exchange} :
    (Dialogue.ask r next).Leads t a ↔
      ∃ answer u, t = ⟨r, answer⟩ :: u ∧ (next answer).Leads u a := by
  constructor
  · intro h
    cases h with
    | ask answer h => exact ⟨answer, _, rfl, h⟩
  · rintro ⟨answer, u, rfl, h⟩
    exact .ask answer h

/-- **Courses compose.** A course of a dialogue in two parts is a course of the
first followed by one of the second. -/
theorem leads_bind_iff {d : Dialogue α} {f : α → Dialogue β} {b : β} {t : List Exchange} :
    (d >>= f).Leads t b ↔ ∃ u a v, t = u ++ v ∧ d.Leads u a ∧ (f a).Leads v b := by
  induction d generalizing t with
  | done a =>
    rw [done_bind]
    constructor
    · intro h
      exact ⟨[], a, t, rfl, .done a, h⟩
    · rintro ⟨u, x, v, rfl, hd, hf⟩
      obtain ⟨rfl, rfl⟩ := leads_done_iff.mp hd
      exact hf
  | ask r next ih =>
    rw [ask_bind, leads_ask_iff]
    constructor
    · rintro ⟨answer, u, rfl, h⟩
      obtain ⟨u, a, v, rfl, hd, hf⟩ := (ih answer).mp h
      exact ⟨⟨r, answer⟩ :: u, a, v, rfl, .ask answer hd, hf⟩
    · rintro ⟨u, a, v, rfl, hd, hf⟩
      obtain ⟨answer, w, rfl, hw⟩ := leads_ask_iff.mp hd
      exact ⟨answer, w ++ v, rfl, (ih answer).mpr ⟨w, a, v, rfl, hw, hf⟩⟩

-- ---------------------------------------------------------------------------
-- Runs
-- ---------------------------------------------------------------------------

/-- A run is one of the courses of its dialogue. -/
theorem run_leads (script : Script σ) (d : Dialogue α) (s : σ) :
    d.Leads (d.run script s).2.1 (d.run script s).1 := by
  induction d generalizing s with
  | done a => exact .done a
  | ask r next ih => exact .ask _ (ih _ _)

/-- **What a script keeps to, every exchange of a run keeps to**, if the script
answers so in every state that satisfies `I`, and stays in such states. -/
theorem run_forall {P : Exchange → Prop} {I : σ → Prop} {script : Script σ}
    (h : ∀ r s, I s → P ⟨r, (script r s).1⟩ ∧ I (script r s).2) (d : Dialogue α) (s : σ)
    (hs : I s) : ∀ e ∈ (d.run script s).2.1, P e := by
  induction d generalizing s with
  | done a =>
    intro e he
    simp [run] at he
  | ask r next ih =>
    intro e he
    obtain ⟨hHere, hNext⟩ := h r s hs
    rcases List.mem_cons.mp he with rfl | he
    · exact hHere
    · exact ih _ _ hNext e he

/-- Answers from a state monad are a script, and to play a dialogue is to run it. -/
theorem play_run (answer : (r : Request) → StateM σ (Answer r)) (d : Dialogue α) (s : σ) :
    (d.play answer).run s =
      let ran := d.run (fun r s => (answer r).run s) s
      (ran.1, ran.2.2) := by
  induction d generalizing s with
  | done a => rfl
  | ask r next ih => exact ih _ _

-- ---------------------------------------------------------------------------
-- The token in a trace
-- ---------------------------------------------------------------------------

/-- The cancel token was tripped when this exchange was over. -/
def Exchange.trips (e : Exchange) : Bool := e.answer.interrupted

/-- The cancel token was tripped during some exchange. -/
def tripped (t : List Exchange) : Bool := t.any Exchange.trips

@[simp]
theorem tripped_nil : tripped [] = false := rfl

@[simp]
theorem tripped_cons (e : Exchange) (t : List Exchange) :
    tripped (e :: t) = (e.trips || tripped t) := rfl

@[simp]
theorem tripped_append (t u : List Exchange) :
    tripped (t ++ u) = (tripped t || tripped u) := List.any_append

@[simp]
theorem trips_mk (r : Request) (a : Answer r) : Exchange.trips ⟨r, a⟩ = a.interrupted := rfl

end Errand.Dialogue
